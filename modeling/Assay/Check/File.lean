import Assay.Check.Declaration
import Assay.Logged
import Assay.Message.Basic
import Assay.Source.Parser.Statement

/-!
# Checking one file

Three phases: the text is parsed, the uses and entities of the module are collected, and its
declarations are listed. A text that is no module has a diagnostic instead of a tree.
-/

namespace Assay.Check

open Source

/-- The code of diagnostics of the parser. -/
def syntaxErrorCode : String := "PY-SYNTAX"

/-- The outcome of parsing a file: its tree, or diagnostics. -/
structure ParseResults where
  file : String
  tree : Option Module
  diagnostics : List Message := []

/-- Whether parsing failed. -/
def ParseResults.hadErrors (p : ParseResults) : Bool := p.tree.isNone || !p.diagnostics.isEmpty

/-- What is known of the symbols of a parsed file. -/
structure CheckResults where
  file : String
  uses : List SymbolUse
  entities : List Entity
  scopes : Scope

/-- The entities of a checked file, only the public ones if asked. -/
def CheckResults.entitiesOf (c : CheckResults) (publicOnly : Bool) : List Entity :=
  if publicOnly then c.entities.filter (·.isPublic) else c.entities

/-- The diagnostic of a fault. -/
def diagnosticOf (file : String) (f : SyntaxFault) : Message :=
  { type := .text "Parse", text := .text f.message, code := .text syntaxErrorCode,
    severity := .error,
    range := { file, startLine := f.line, startColumn := f.column, endLine := f.endLine,
               endColumn := f.endColumn } }

/-- The fault of a name that no file can have. -/
def nameFault? (file : String) : Option SyntaxFault :=
  if file.toList.contains '\x00' then some { message := "embedded null character" } else none

/-- The tree of a text with the name of its file, which is looked at first. -/
def treeOf (file source : String) : Except SyntaxFault Module :=
  match nameFault? file with
  | some fault => .error fault
  | none => Module.ofText source

/-- Parse a file. -/
def parseFile (file source : String) : ParseResults :=
  match treeOf file source with
  | .ok tree => { file, tree := some tree }
  | .error fault => { file, tree := none, diagnostics := [diagnosticOf file fault] }

/-- The part of a path behind its last slash. -/
def baseName (file : String) : String :=
  String.ofList (file.toList.reverse.takeWhile (· ≠ '/')).reverse

/-- Collect the uses and entities of a parsed file. A module whose names make no sense is logged. -/
def checkFile (p : ParseResults) : Logged (Option CheckResults) :=
  match p.tree with
  | none => pure none
  | some tree =>
      match Scope.ofModule tree with
      | .error f => do
          let file := p.file
          let message := f.fault.message
          let base := baseName file
          let line := f.line
          Logged.note .error s!"Symbol table for {file} failed: {message} ({base}, line {line})"
          return none
      | .ok scopes =>
          return some { file := p.file, uses := usesOf p.file scopes tree,
                        entities := entitiesOf p.file tree, scopes }

/-- List the declarations of a parsed file. -/
def declarationTree (p : ParseResults) : Option DeclarationTree :=
  p.tree.map fun tree => { file := p.file, declarations := declarationsOf p.file false tree.body }

/-- A file that went through all phases. -/
structure CheckedFile where
  file : String
  source : String
  parse : ParseResults
  check : CheckResults
  tree : DeclarationTree

/-- Go through all phases. What keeps a file from being checked is logged. -/
def checkAll (file source : String) : Logged (Option CheckedFile) := do
  let parse := parseFile file source
  if parse.hadErrors then
    for d in parse.diagnostics do
      let line := Json.writeInt d.range.startLine
      let column := Json.writeInt d.range.startColumn
      let text := d.text.str
      Logged.note .debug s!"{file}({line},{column}): {text}"
    return none
  else
    match ← checkFile parse, declarationTree parse with
    | some check, some tree => return some { file, source, parse, check, tree }
    | _, _ => return none

end Assay.Check
