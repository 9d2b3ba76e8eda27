import Assay.Source.Token

/-!
# Why a text is refused

A fault points to a range of the text in characters. The lexer and the parser find places in bytes;
`charColumn` counts the characters.
-/

namespace Assay.Source

/-- What is at fault: the grammar, the indentation, or the tabs in it. -/
inductive FaultKind where
  | grammar
  | indentation
  | tabs
  deriving DecidableEq, Repr, Inhabited

/-- The reason why a text is no module, and the range that it points to: lines and offsets from one,
offsets in characters. Where there is no place the offset is zero or less. The text is the line that
the fault is shown with. -/
structure SyntaxFault where
  message : String
  kind : FaultKind := .grammar
  line : Nat := 1
  offset : Int := 0
  endLine : Nat := 1
  endOffset : Int := 0
  text : String := ""
  deriving DecidableEq, Repr, Inhabited

namespace SyntaxFault

/-- The first column of the range, from zero. -/
def column (f : SyntaxFault) : Nat := (f.offset - 1).toNat

/-- The column behind the range, which is not before the first. -/
def endColumn (f : SyntaxFault) : Nat := max (f.endOffset - 1).toNat f.column

end SyntaxFault

/-- How many characters of a line begin within its first `bytes` bytes; places more than one byte
behind the end of the line count as one behind it. -/
def charColumn (line : List Char) (bytes : Nat) : Nat :=
  charsWithin (min bytes (byteLength line + 1)) line

/-- The lines of a text without their line feeds. -/
def linesOf (cs : List Char) : Array (List Char) :=
  let rec go : List Char → List Char → Array (List Char) → Array (List Char)
    | [], current, lines => if current.isEmpty then lines else lines.push current.reverse
    | '\n' :: rest, current, lines => go rest [] (lines.push current.reverse)
    | c :: rest, current, lines => go rest (c :: current) lines
  go cs [] #[]

/-- The lines of a text, without their line feeds and as they are shown. `before` lines stand in
front of them. -/
structure SourceLines where
  plain : Array (List Char)
  shown : Array (List Char)
  before : Nat := 0

namespace SourceLines

/-- Lines that are shown without their line feeds. -/
def ofChars (cs : List Char) (before : Nat := 0) : SourceLines :=
  let plain := linesOf cs
  { plain, shown := plain, before }

/-- The text of a line; behind the last line, that of the last. -/
def lineText (lines : Array (List Char)) (line : Nat) : List Char :=
  lines.getD (min line lines.size - 1) []

/-- A line without its line feed. -/
def plainText (l : SourceLines) (line : Nat) : List Char := lineText l.plain (line - l.before)

/-- A line as it is shown. -/
def shownText (l : SourceLines) (line : Nat) : List Char := lineText l.shown (line - l.before)

end SourceLines

namespace SyntaxFault

/-- A fault in one line, shown with it. -/
def ofLine (lines : SourceLines) (message : String) (line : Nat) (offset endOffset : Int) :
    SyntaxFault :=
  { message, line, offset, endLine := line, endOffset,
    text := String.ofList (lines.shownText line) }

/-- A fault that points to a span of bytes, which are counted from behind `start` of them in every
line. -/
def ofSpan (lines : SourceLines) (message : String) (s : Span) (start : Nat := 0) : SyntaxFault :=
  let offset (column : Nat) : Int :=
    if column < start then (column + 1 : Int) - start
    else charColumn (lines.shownText s.line) (column + 1 - start)
  { ofLine lines message s.line (offset s.column) (offset s.endColumn) with endLine := s.endLine }

/-- A fault before the place where the lexer stands after `bytes` bytes of a line. -/
def ofCursor (lines : SourceLines) (message : String) (line bytes : Nat) : SyntaxFault :=
  ofLine lines message line (charColumn (lines.shownText line) bytes) (-1)

/-- A fault that points to a byte of a line. -/
def ofPlace (lines : SourceLines) (message : String) (line column : Nat) : SyntaxFault :=
  ofLine lines message line (charColumn (lines.shownText line) (column + 1)) 0

/-- The fault of a bracket that is not closed. -/
def ofBracket (lines : SourceLines) (b : OpenBracket) : SyntaxFault :=
  let bracket := b.bracket
  ofPlace lines s!"'{bracket}' was never closed" b.line b.column

end SyntaxFault

/-- How a lexer fault that the parser runs into is reported. -/
def LexFault.report (lines : SourceLines) (unclosed : List OpenBracket) : LexFault → SyntaxFault
  | definite message line column endColumn =>
      { message, line, offset := column + 1, endLine := line, endOffset := endColumn + 1,
        text := String.ofList (lines.plainText line) }
  | badDedent line cursor =>
      { SyntaxFault.ofCursor lines "unindent does not match any outer indentation level" line cursor
        with kind := .indentation }
  | mixedTabs line =>
      { SyntaxFault.ofPlace lines "inconsistent use of tabs and spaces in indentation" line 0
        with kind := .tabs }
  | tooDeep line =>
      { SyntaxFault.ofPlace lines "too many levels of indentation" line 0
        with kind := .indentation }
  | strayContinuation line column =>
      .ofPlace lines "unexpected character after line continuation character" line column
  | endInContinuation line cursor => match unclosed with
    | b :: _ => .ofBracket lines b
    | [] => .ofCursor lines "unexpected EOF while parsing" line cursor
  | endInBrackets => match unclosed with
    | b :: _ => .ofBracket lines b
    | [] => .ofCursor lines "unexpected EOF while parsing" lines.plain.size 0

end Assay.Source
