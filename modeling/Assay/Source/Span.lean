/-!
# Places in a source text

Lines count from one. Columns count from zero in bytes of the UTF-8 form of the line.
-/

namespace Assay.Source

/-- A stretch of source text, from its first byte up to the byte after its last. -/
structure Span where
  line : Nat
  column : Nat
  endLine : Nat
  endColumn : Nat
  deriving DecidableEq, Repr, Inhabited

namespace Span

/-- The stretch from the start of one span to the end of another. -/
def upTo (first last : Span) : Span :=
  { first with endLine := last.endLine, endColumn := last.endColumn }

end Span

/-- The number of bytes of a character in UTF-8. -/
def byteWidth (c : Char) : Nat := c.utf8Size

/-- The number of bytes of a text in UTF-8. -/
def byteLength (cs : List Char) : Nat := cs.foldl (fun n c => n + byteWidth c) 0

/-- How many characters of a line begin within its first `bytes` bytes. Behind the end of the line
each byte counts as one character. -/
def charsWithin : Nat → List Char → Nat
  | 0, _ => 0
  | bytes + 1, [] => bytes + 1
  | bytes + 1, c :: cs => 1 + charsWithin (bytes + 1 - byteWidth c) cs

end Assay.Source
