import Assay.Check.CallStack
import Assay.Check.Project

/-!
# Contexts

What an analyzer is given: the results of all phases for one file and those of its project. In an
editor any of them may be missing, and questions about them then have empty answers.
-/

namespace Assay.Check

/-- The two hosts that analyzers are written for. -/
inductive HostKind where
  | cli
  | editor
  deriving DecidableEq, Repr, Inhabited

namespace HostKind

/-- The word for a kind of host. -/
def word : HostKind → String
  | cli => "cli"
  | editor => "editor"

/-- The name of the type of contexts that a host gives. -/
def contextName : HostKind → String
  | cli => "CliContext"
  | editor => "EditorContext"

/-- All kinds of hosts. -/
def all : List HostKind := [.cli, .editor]

/-- A kind of host as a value. -/
def toValue (k : HostKind) : Value := .member "AnalyzerKind" k.word.toUpper .mixed (.text k.word)

/-- The kind of host that a value stands for. -/
def ofValue (v : Value) : Except Failure HostKind :=
  match all.find? fun k => v.same (.text k.word) with
  | some k => .ok k
  | none => .error (.value (v.shown ++ " is not a valid AnalyzerKind"))

end HostKind

/-- A context. One for the command line has every part; one for an editor may lack any. -/
structure Context where
  kind : HostKind
  file : String
  source : Option String := none
  parse : Option ParseResults := none
  check : Option CheckResults := none
  tree : Option DeclarationTree := none
  project : Option ProjectResults := none

namespace Context

/-- The entities of the file. -/
def entities (c : Context) (publicOnly : Bool) : List Entity :=
  match c.check with
  | some check => check.entitiesOf publicOnly
  | none => []

/-- The uses in the project. -/
def projectUses (c : Context) : List SymbolUse :=
  match c.project with
  | some project => project.uses
  | none => []

/-- The uses in the file. -/
def fileUses (c : Context) : List SymbolUse :=
  match c.check with
  | some check => check.uses
  | none => []

/-- The context of a checked file for the command line. -/
def ofChecked (project : ProjectResults) (checked : CheckedFile) : Context :=
  { kind := .cli, file := checked.file, source := some checked.source, parse := some checked.parse,
    check := some checked.check, tree := some checked.tree, project := some project }

/-- A context for an editor: phases that fail are left out. -/
def forEditor (file : String) (source : Option String) (project : Option ProjectResults) :
    Logged Context :=
  match source with
  | none => pure { kind := .editor, file, project }
  | some source => do
      let parse := parseFile file source
      let check ← checkFile parse
      return { kind := .editor, file, source, parse, check, tree := declarationTree parse, project }

/-- How many calls are open when the text of a context for the command line is gone through. -/
def callsForSource : Nat := 4

/-- How many calls are open when the text of a context for an editor is gone through. -/
def callsForEditor : Nat := 3

/-- The context of one text for the command line. The text must go through all phases. -/
def ofSource (stack : CallStack) (source file : String) : Attempt Context := do
  Attempt.ofExcept (stack.require callsForSource (parseFile file source))
  let (checked, _) ← Attempt.ofLogged (({} : Checker).typeCheck file file source)
  match checked with
  | some checked => return ofChecked { files := [checked.check] } checked
  | none =>
      let details := (parseFile file source).diagnostics.map fun d =>
        "(" ++ Json.writeInt d.range.startLine ++ "," ++ Json.writeInt d.range.startColumn ++ ") " ++
          d.text.str
      let details := if details.isEmpty then "" else ": " ++ "; ".intercalate details
      throw (.context (s!"There is an error in the code of {file}" ++ details))

/-- The context of one text for an editor. The text is its own project if it can be checked. -/
def ofEditorSource (stack : CallStack) (source : Option String) (file : String) :
    Attempt Context := do
  match source with
  | none => pure ()
  | some source => Attempt.ofExcept (stack.require callsForEditor (parseFile file source))
  let context ← Attempt.ofLogged (forEditor file source none)
  match context.check with
  | none => return context
  | some check => Attempt.ofLogged (forEditor file source (some { files := [check] }))

end Context

end Assay.Check
