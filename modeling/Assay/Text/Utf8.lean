/-!
# UTF-8

Bytes are decoded strictly: overlong forms, surrogates and values beyond Unicode are refused, and a
fault tells which bytes are at fault.
-/

namespace Assay.Text.Utf8

/-- Why bytes cannot be decoded, and the range of the bytes at fault. -/
structure Fault where
  reason : String
  first : Nat
  count : Nat
  firstByte : UInt8
  deriving DecidableEq, Repr

/-- The message of a fault. -/
def Fault.message (f : Fault) : String :=
  let first := f.first
  let last := f.first + f.count - 1
  let reason := f.reason
  let digits := Nat.toDigits 16 f.firstByte.toNat
  let hex := String.ofList (List.replicate (2 - digits.length) '0' ++ digits)
  if f.count = 1 then
    s!"'utf-8' codec can't decode byte 0x{hex} in position {first}: {reason}"
  else s!"'utf-8' codec can't decode bytes in position {first}-{last}: {reason}"

/-- Whether a byte continues a character. -/
def isContinuation (b : UInt8) : Bool := 0x80 ≤ b && b < 0xc0

/-- The number of bytes of the character that a byte begins, if it can begin one. -/
def sequenceLength? (b : UInt8) : Option Nat :=
  if b < 0x80 then some 1
  else if 0xc2 ≤ b && b < 0xe0 then some 2
  else if 0xe0 ≤ b && b < 0xf0 then some 3
  else if 0xf0 ≤ b && b < 0xf5 then some 4
  else none

/-- Whether a byte may follow the first byte of a character. -/
def isSecond (first second : UInt8) : Bool :=
  isContinuation second &&
    (if first = 0xe0 then 0xa0 ≤ second
     else if first = 0xed then second < 0xa0
     else if first = 0xf0 then 0x90 ≤ second
     else if first = 0xf4 then second < 0x90
     else true)

/-- The code of a character from its first byte and the bytes behind it. -/
def combine (first : UInt8) (rest : List UInt8) : Nat :=
  let lead := match rest.length with
    | 0 => first.toNat
    | 1 => first.toNat % 32
    | 2 => first.toNat % 16
    | _ => first.toNat % 8
  rest.foldl (fun n b => n * 64 + b.toNat % 64) lead

/-- How many of the bytes behind the first one fit. -/
def fitting (first : UInt8) (rest : List UInt8) : Nat :=
  match rest with
  | [] => 0
  | second :: more =>
      if isSecond first second then 1 + (more.takeWhile isContinuation).length else 0

/-- Decode bytes, the first of them being at a position. -/
def decodeFrom : Nat → Nat → List Char → List UInt8 → Except Fault (List Char)
  | 0, _, done, _ => .ok done.reverse
  | _ + 1, _, done, [] => .ok done.reverse
  | fuel + 1, position, done, b :: rest =>
      match sequenceLength? b with
      | none => .error ⟨"invalid start byte", position, 1, b⟩
      | some size =>
          let wanted := size - 1
          let given := rest.take wanted
          let fit := fitting b given
          if fit = wanted then
            decodeFrom fuel (position + size) (Char.ofNat (combine b given) :: done)
              (rest.drop wanted)
          else if fit = given.length then
            .error ⟨"unexpected end of data", position, 1 + given.length, b⟩
          else .error ⟨"invalid continuation byte", position, 1 + fit, b⟩

/-- Decode bytes. -/
def decode (bytes : List UInt8) : Except Fault (List Char) :=
  decodeFrom (bytes.length + 1) 0 [] bytes

/-- Decode bytes; what cannot be decoded is given to `substitute` by its number of bytes. -/
def decodeWith (substitute : Nat → List Char) : Nat → List UInt8 → List Char
  | 0, _ => []
  | fuel + 1, bytes =>
      match decode bytes with
      | .ok cs => cs
      | .error f =>
          let before := decodeFrom (f.first + 1) 0 [] (bytes.take f.first)
          before.toOption.getD [] ++ substitute f.count ++
            decodeWith substitute fuel (bytes.drop (f.first + f.count))

/-- Decode bytes; what cannot be decoded becomes a replacement character. -/
def decodeLossy (bytes : List UInt8) : List Char :=
  decodeWith (fun _ => ['\ufffd']) (bytes.length + 1) bytes

/-- The characters that lie within a number of bytes; one that is cut is replaced. -/
def cutChars : Nat → List Char → List Char
  | _, [] => []
  | bytes, c :: cs =>
      if c.utf8Size ≤ bytes then c :: cutChars (bytes - c.utf8Size) cs
      else if bytes = 0 then []
      else ['\ufffd']

/-- A text cut behind a number of bytes. -/
def cut (bytes : Nat) (s : String) : String := String.ofList (cutChars bytes s.toList)

/-- The bytes of a text. -/
def encode (s : String) : List UInt8 := s.toUTF8.toList

end Assay.Text.Utf8
