import Assay.Failure
import Assay.File.Path
import Assay.Source.Placement.Stmt
import Assay.Source.Scope.Resolve
import Assay.Source.Undecoded

/-!
# Plugins that are source texts

A plugin can be a source text. It must be a module: its bytes are decoded, it is parsed, its names
are resolved, and its constructs stand where they may. `compile` goes through these phases and gives
the failure of the first that refuses the file.
-/

namespace Assay.Plugin

open Source

/-! ## Lines as they are shown -/

/-- The lines of a file; those that end do so with a single line feed. -/
def fileLines (file : List UInt8) : Array (List UInt8) :=
  let rec go : List UInt8 → List UInt8 → Array (List UInt8) → Array (List UInt8)
    | [], current, lines => if current.isEmpty then lines else lines.push current.reverse
    | 13 :: 10 :: rest, current, lines => go rest [] (lines.push (10 :: current).reverse)
    | b :: rest, current, lines =>
        if b = 10 || b = 13 then go rest [] (lines.push (10 :: current).reverse)
        else go rest (b :: current) lines
  go file [] #[]

/-- The most bytes of a line that are read at once. -/
def pieceLength : Nat := 999

/-- The last piece of a line: long lines are shown by it. -/
def lastPiece (line : List UInt8) : List UInt8 :=
  line.drop ((line.length - 1) / pieceLength * pieceLength)

/-- A line of a file as it is shown. One that cannot be decoded is shown whole, with replacements. -/
def shownLine (encoding : Encoding) (line : List UInt8) : List Char :=
  match encoding with
  | .latin1 => Encoding.widen (lastPiece line)
  | _ => match Text.Utf8.decode (lastPiece line) with
    | .ok cs => cs
    | .error _ =>
        let cs := Text.Utf8.decodeLossy line
        if cs.getLast? = some '\n' then cs else cs ++ ['\n']

/-- A line of a file as UTF-8, if it is. -/
def strictLine? (lines : Array (List UInt8)) (line : Nat) : Option String :=
  match lines[line - 1]? with
  | some bytes => (Text.Utf8.decode (lastPiece bytes)).toOption.map String.ofList
  | none => none

/-! ## Failures -/

/-- The name of a failure. -/
def kindName : FaultKind → String
  | .grammar => "SyntaxError"
  | .indentation => "IndentationError"
  | .tabs => "TabError"

/-- A failure to compile a file: its message, further details that are shown, and its line. -/
def compileFailure (kind : FaultKind) (path : Path) (message : String) (details : List Value)
    (line : Int) : Failure :=
  let file := path.name
  let name := kindName kind
  let line := Json.writeInt line
  let place : List String := if details.isEmpty then []
    else [(Value.tuple (.text path.toString :: details)).shown]
  { kind := name, text := s!"{message} ({file}, line {line})"
    shown := name ++ "(" ++ Value.commaed (Text.quoted message :: place) ++ ")" }

/-- The failure of a file that cannot be decoded. -/
def encodingFailure (path : Path) (message : String) : Failure :=
  compileFailure .grammar path message [.int 0, .int (-1), .none] 0

/-- The failure of a text that does not follow the grammar. A fault that lies before its line cannot
be shown, which is a failure in itself. -/
def syntaxFailure (path : Path) (f : SyntaxFault) : Failure :=
  if f.offset < 0 then .of "SystemError" "Negative size passed to PyUnicode_New"
  else
    compileFailure f.kind path f.message
      [.int f.line, .int f.offset, .text f.text, .int f.endLine, .int f.endOffset] f.line

/-- The failure of a module whose names make no sense. -/
def scopeFailure (path : Path) (f : LocatedFault) : Failure :=
  compileFailure .grammar path f.fault.message [] f.line

/-- The failure of a module with a construct in the wrong place. Offsets count bytes; there is no line
minus one, which stands for a lost place. -/
def placementFailure (path : Path) (lines : Array (List UInt8)) (m : Misplaced) : Failure :=
  match m.span with
  | none =>
      compileFailure .grammar path m.fault.message [.int (-1), .int 0, .none, .int (-1), .int 0] (-1)
  | some s =>
      let text := match strictLine? lines s.line with
        | some text => Value.text text
        | none => .none
      compileFailure .grammar path m.fault.message
        [.int s.line, .int (s.column + 1), text, .int s.endLine, .int (s.endColumn + 1)] s.line

/-! ## Compiling -/

/-- Parse a file. A fault in a line before the first bytes that are no characters goes before the
fault of those. Lines behind those of the file are shown as they are read. -/
def parse (reading : Encoding.Reading) (lines : Array (List UInt8)) (cs : List Char) :
    Except SyntaxFault Source.Module :=
  let cs := unifyLines cs
  let plain := linesOf cs
  let behind := (plain.extract lines.size plain.size).map (· ++ ['\n'])
  let shown := lines.map (shownLine reading.encoding) ++ behind
  let input : ParserInput := { stream := .ofChars cs, lines := { plain, shown } }
  let parsed := Module.ofInput input
  let place? := if reading.encoding = .utf8 && reading.isLenient then Undecoded.find? reading.bytes
    else none
  match place?.bind fun p => (Undecoded.fault? input p).map fun f => (p, f) with
  | none => parsed
  | some (p, undecoded) => match parsed with
    | .error f => .error (if f.line < p.line then f else undecoded)
    | .ok _ => .error undecoded

/-- Go through all phases of compiling the file at a path. -/
def compile (path : Path) (file : List UInt8) : Except Failure Unit := do
  if file.contains 0 then throw (.value nullCharacterMessage)
  let lines := fileLines file
  let reading ← (Encoding.reading file).mapError (encodingFailure path)
  let cs ← reading.chars.mapError (encodingFailure path)
  let m ← (parse reading lines cs).mapError (syntaxFailure path)
  discard ((Scope.ofModule m).mapError (scopeFailure path))
  m.checkPlacement.mapError (placementFailure path lines)

end Assay.Plugin
