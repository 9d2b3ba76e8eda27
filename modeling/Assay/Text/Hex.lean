/-!
# Bytes as hexadecimal digits

Two digits make a byte; white space may stand between bytes.
-/

namespace Assay.Text.Hex

/-- The value of a hexadecimal digit. -/
def digit? (c : Char) : Option Nat :=
  if c.isDigit then some (c.toNat - '0'.toNat)
  else if 'a' ≤ c && c ≤ 'f' then some (c.toNat - 'a'.toNat + 10)
  else if 'A' ≤ c && c ≤ 'F' then some (c.toNat - 'A'.toNat + 10)
  else none

/-- Whether a character may stand between bytes. -/
def isSpace (c : Char) : Bool := c = ' ' || ('\t' ≤ c && c ≤ '\r')

/-- Read bytes from a position on; `first` is the digit that the next one completes. The position of
the first character that does not fit is the fault. -/
def readFrom (position : Nat) (first : Option Nat) : List Char → Except Nat (List UInt8)
  | [] => if first.isSome then .error position else .ok []
  | c :: cs =>
      match digit? c, first with
      | some low, some high => do
          let rest ← readFrom (position + 1) none cs
          return UInt8.ofNat (high * 16 + low) :: rest
      | some high, none => readFrom (position + 1) (some high) cs
      | none, none =>
          if isSpace c then readFrom (position + 1) none cs else .error position
      | none, some _ => .error position

/-- The bytes that a text stands for, or the position of its fault; a character beyond ASCII is found
first. -/
def read (s : String) : Except Nat (List UInt8) :=
  match s.toList.findIdx? fun c => 128 ≤ c.toNat with
  | some position => .error position
  | none => readFrom 0 none s.toList

end Assay.Text.Hex
