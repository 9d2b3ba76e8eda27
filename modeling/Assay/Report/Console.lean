import Assay.Message.Basic
import Assay.Text.CellWidth
import Assay.Text.Cut
import Assay.Value.Canonical

/-!
# The console report

One line for each message: the file with line and column, the severity, the code and the text. Text
is printed line by line; controls that would move the cursor are dropped, tabs are expanded by the
cells that text takes on a terminal, and lines are never broken. On a terminal with colors each line
that is not empty is painted.
-/

namespace Assay.Report

/-- Whether a message can be printed: it has no number that is too long to be written. -/
def isPrintable (m : AnalyzerMessage) : Bool :=
  let r := m.message.range
  !(isTooLong r.startLine || isTooLong r.startColumn || m.code.isTooLong || m.message.text.isTooLong)

/-- The line for a message. -/
def formatMessage (m : AnalyzerMessage) : String :=
  let r := m.message.range
  r.file ++ "(" ++ Json.writeInt r.startLine ++ "," ++ Json.writeInt r.startColumn ++ "): " ++
    m.severity.label ++ " " ++ m.code.str ++ " - " ++ m.message.text.str

/-- The colors of the console. -/
inductive Color where
  | red
  | yellow
  | blue
  | cyan
  deriving DecidableEq, Repr

/-- The number of a color. -/
def Color.number : Color → Nat
  | red => 31
  | yellow => 33
  | blue => 34
  | cyan => 36

/-- The color of a severity. -/
def colorOf : Severity → Color
  | .error => .red
  | .warning => .yellow
  | .info => .blue
  | .hint => .cyan

/-- Whether a character is dropped: bell, backspace, vertical tab, form feed and carriage return. -/
def isDropped (c : Char) : Bool := [0x07, 0x08, 0x0b, 0x0c, 0x0d].contains c.toNat

/-- The width of a tab. -/
def tabWidth : Nat := 8

/-- The parts of a line between its tabs with the tabs expanded; `cells` have been printed of it. A
tab is one blank at least, which belongs to the part before it. -/
def expandParts (cells : Nat) : List (List Char) → List Char
  | [] => []
  | [last] => last
  | part :: parts =>
      let part := part ++ [' ']
      let cells := cells + Text.cellLength part
      let missing := (tabWidth - cells % tabWidth) % tabWidth
      part ++ List.replicate missing ' ' ++ expandParts (cells + missing) parts

/-- Expand the tabs of a line. -/
def expandTabs (line : List Char) : List Char := expandParts 0 (Text.cut '\t' line)

/-- A console, with colors or without. -/
structure Console where
  colored : Bool := false
  deriving DecidableEq, Repr

namespace Console

/-- Paint a line, unless it is empty. -/
def paint (c : Console) (color : Option Color) (line : String) : String :=
  match color with
  | some color =>
      if c.colored && line ≠ "" then
        let number := Json.writeInt color.number
        "\x1b[" ++ number ++ "m" ++ line ++ "\x1b[0m"
      else line
  | none => line

/-- Print a text. -/
def print (c : Console) (color : Option Color) (s : String) : String :=
  let lines := Text.cut '\n' (s.toList.filter fun ch => !isDropped ch)
  String.join (lines.map fun line =>
    c.paint color (String.ofList (expandTabs line)) ++ "\n")

/-- What is printed before messages. A verbose console begins with an empty line and says if there
are none. -/
def opening (c : Console) (verbose : Bool) (messages : List AnalyzerMessage) : String :=
  if verbose then
    c.print none "" ++
      (if messages.isEmpty then c.print none "No messages found from the analyzer(s)" else "")
  else ""

/-- Print messages one after the other. -/
def printLines (c : Console) (messages : List AnalyzerMessage) : String :=
  String.join (messages.map fun m => c.print (some (colorOf m.severity)) (formatMessage m))

/-- Print messages. -/
def printMessages (c : Console) (verbose : Bool) (messages : List AnalyzerMessage) : String :=
  c.opening verbose messages ++ c.printLines messages

/-- Print messages up to the first that cannot be printed, which is a failure. -/
def tryMessages (c : Console) (verbose : Bool) (messages : List AnalyzerMessage) :
    String × Except Failure Unit :=
  if messages.all isPrintable then (c.printMessages verbose messages, .ok ())
  else (c.opening verbose messages ++ c.printLines (messages.takeWhile isPrintable),
    .error Value.tooLong)

/-- Print an error. -/
def printError (c : Console) (text : String) : String := c.print (some .red) ("Error : " ++ text)

end Console

end Assay.Report
