import Assay.Text.Blank

/-!
# Decimal digits

Many scripts have ten digits of their own, which stand for the same numbers. Each set of ten is one
run of code points.
-/

namespace Assay.Text

/-- The zeros of the sets of decimal digits (Unicode 14). -/
def zeroClass : CharClass := .ofHex
  "30,660,6f0,7c0,966,9e6,a66,ae6,b66,be6,c66,ce6,d66,de6,e50,ed0,f20,1040,1090,17e0,1810,1946,
    19d0,1a80,1a90,1b50,1bb0,1c40,1c50,a620,a8d0,a900,a9d0,a9f0,aa50,abf0,ff10,104a0,10d30,
    11066,110f0,11136,111d0,112f0,11450,114d0,11650,116c0,11730,118e0,11950,11c50,11d50,11da0,
    16a60,16ac0,16b50,1d7ce,1d7d8,1d7e2,1d7ec,1d7f6,1e140,1e2f0,1e950,1fbf0"

/-- The number that a decimal digit of any script stands for. -/
def decimalDigit? (c : Char) : Option Nat :=
  (zeroClass.ranges.find? fun zero => zero.1 ≤ c.toNat && c.toNat < zero.1 + 10).map
    fun zero => c.toNat - zero.1

/-- The ASCII digit for a number below ten. -/
def asciiDigit (n : Nat) : Char := Char.ofNat ('0'.toNat + n)

/-- A decimal digit of any script as an ASCII one, and white space of any kind as a blank; other
characters beyond ASCII become one that is in no number. -/
def toAsciiNumber (c : Char) : Char :=
  if c.toNat < 127 then c
  else if isBlank c then ' '
  else match decimalDigit? c with
    | some n => asciiDigit n
    | none => '?'

/-- The characters of a text that may hold a number: a text in ASCII is left as it is. -/
def numberChars (s : String) : List Char :=
  let cs := s.toList
  if cs.all (·.toNat < 128) then cs else cs.map toAsciiNumber

end Assay.Text
