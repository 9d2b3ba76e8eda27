/-!
# Classes of characters given by ranges

A class of characters is written as a comma-separated list of hexadecimal code points and ranges,
in ascending order; blanks and line ends between them do not count. `CharClass.ofHex` reads that form and `CharClass.contains` searches it.
-/

namespace Assay.Text

/-- Ascending, disjoint ranges of code points, both ends included. -/
structure CharClass where
  ranges : Array (Nat × Nat)

namespace CharClass

/-- The value of one hexadecimal digit; other characters count as zero. -/
def hexDigit (c : Char) : Nat :=
  if c.isDigit then c.toNat - '0'.toNat
  else if 'a' ≤ c ∧ c ≤ 'f' then c.toNat - 'a'.toNat + 10
  else if 'A' ≤ c ∧ c ≤ 'F' then c.toNat - 'A'.toNat + 10
  else 0

/-- The state of reading: finished ranges, the lower end if a dash was seen, the number so far. -/
structure Reading where
  finished : Array (Nat × Nat) := #[]
  lower : Option Nat := none
  number : Nat := 0

/-- Close the range that is being read. -/
def Reading.close (r : Reading) : Reading :=
  { finished := r.finished.push (r.lower.getD r.number, r.number) }

/-- Read one more character of the hexadecimal form. -/
def Reading.step (r : Reading) (c : Char) : Reading :=
  if c = ' ' || c = '\n' then r
  else if c = ',' then r.close
  else if c = '-' then { r with lower := some r.number, number := 0 }
  else { r with number := r.number * 16 + hexDigit c }

/-- Read a class from its hexadecimal form. -/
def ofHex (text : String) : CharClass :=
  ⟨(text.toList.foldl Reading.step {}).close.finished⟩

/-- Binary search between the indices `lo` (inside) and `hi` (outside). -/
def search (ranges : Array (Nat × Nat)) (n : Nat) : Nat → Nat → Nat → Bool
  | 0, _, _ => false
  | fuel + 1, lo, hi =>
      if lo < hi then
        let mid := (lo + hi) / 2
        match ranges[mid]? with
        | none => false
        | some (first, last) =>
            if n < first then search ranges n fuel lo mid
            else if last < n then search ranges n fuel (mid + 1) hi
            else true
      else false

/-- Whether a code point lies in the class. -/
def containsCode (cls : CharClass) (n : Nat) : Bool :=
  search cls.ranges n (cls.ranges.size + 1) 0 cls.ranges.size

/-- Whether a character lies in the class. -/
def contains (cls : CharClass) (c : Char) : Bool :=
  cls.containsCode c.toNat

end CharClass

end Assay.Text
