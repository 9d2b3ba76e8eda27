/-!
# Base64

Four characters of an alphabet of 64 stand for three bytes. Characters outside of the alphabet do not
count, and equals signs that fill a group of four end the data.
-/

namespace Assay.Text.Base64

/-- The number that a character of the alphabet stands for. -/
def digit? (c : Char) : Option Nat :=
  if 'A' ≤ c && c ≤ 'Z' then some (c.toNat - 65)
  else if 'a' ≤ c && c ≤ 'z' then some (c.toNat - 71)
  else if '0' ≤ c && c ≤ '9' then some (c.toNat + 4)
  else if c = '+' then some 62
  else if c = '/' then some 63
  else none

/-- The whole bytes of a group of up to four digits. -/
def bytesOf : List Nat → List UInt8
  | a :: b :: rest => (a * 4 + b / 16).toUInt8 :: match rest with
    | [] => []
    | c :: rest => (b % 16 * 16 + c / 4).toUInt8 :: match rest with
      | [] => []
      | d :: _ => [(c % 4 * 64 + d).toUInt8]
  | _ => []

/-- Decode a text behind an unfinished group of digits and some equals signs. -/
def decodeFrom (group : List Nat) (fill : Nat) : List Char → Option (List UInt8)
  | [] => if group.isEmpty then some [] else none
  | c :: rest =>
      if c = '=' && 2 ≤ group.length then
        if 4 ≤ group.length + fill + 1 then some (bytesOf group)
        else decodeFrom group (fill + 1) rest
      else match digit? c with
        | none => decodeFrom group fill rest
        | some d =>
            if group.length = 3 then (bytesOf (group ++ [d]) ++ ·) <$> decodeFrom [] 0 rest
            else decodeFrom (group ++ [d]) 0 rest

/-- The bytes of a text, if its last group is complete. -/
def decode? (s : String) : Option (List UInt8) := decodeFrom [] 0 s.toList

end Assay.Text.Base64
