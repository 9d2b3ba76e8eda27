import Assay.Decimal.Scaled
import Assay.Json.Basic

/-!
# Reading JSON

`Json.parse?` reads a text that holds exactly one value. Of fields with the same name the last one
counts, in the place of the first.
-/

namespace Assay.Json

/-- Skip blanks. -/
def skipBlanks (cs : List Char) : List Char :=
  cs.dropWhile fun c => c = ' ' || c = '\n' || c = '\r' || c = '\t'

/-- Whether a character is a hexadecimal digit. -/
def isHex (c : Char) : Bool :=
  c.isDigit || ('a' ≤ c && c ≤ 'f') || ('A' ≤ c && c ≤ 'F')

/-- The value of a hexadecimal digit. -/
def hexDigit (c : Char) : Nat :=
  if c.isDigit then c.toNat - 48 else if 'a' ≤ c then c.toNat - 87 else c.toNat - 55

/-- Read four hexadecimal digits. -/
def readUnit (cs : List Char) : Option (Nat × List Char) :=
  match cs with
  | a :: b :: c :: d :: rest =>
      if [a, b, c, d].all isHex then
        some (((hexDigit a * 16 + hexDigit b) * 16 + hexDigit c) * 16 + hexDigit d, rest)
      else none
  | _ => none

/-- The character of a single-letter escape. -/
def escaped? (c : Char) : Option Char :=
  match c with
  | '"' => some '"'
  | '\\' => some '\\'
  | '/' => some '/'
  | 'b' => some '\x08'
  | 'f' => some '\x0c'
  | 'n' => some '\n'
  | 'r' => some '\r'
  | 't' => some '\t'
  | _ => none

/-- Read a text behind its opening quote. -/
def readText : Nat → List Char → List Char → Option (List Char × List Char)
  | 0, _, _ => none
  | fuel + 1, done, cs =>
      match cs with
      | '"' :: rest => some (done.reverse, rest)
      | '\\' :: 'u' :: rest =>
          match readUnit rest with
          | none => none
          | some (n, rest) =>
              if 0xd800 ≤ n && n < 0xdc00 then
                match rest with
                | '\\' :: 'u' :: more =>
                    match readUnit more with
                    | some (low, more) =>
                        if 0xdc00 ≤ low && low < 0xe000 then
                          let c := Char.ofNat (0x10000 + (n - 0xd800) * 0x400 + (low - 0xdc00))
                          readText fuel (c :: done) more
                        else none
                    | none => none
                | _ => none
              else if 0xdc00 ≤ n && n < 0xe000 then none
              else readText fuel (Char.ofNat n :: done) rest
      | '\\' :: c :: rest =>
          match escaped? c with
          | some e => readText fuel (e :: done) rest
          | none => none
      | c :: rest => if c.toNat < 0x20 then none else readText fuel (c :: done) rest
      | [] => none

/-- The number that decimal digits stand for. -/
def numberOf (digits : List Char) : Nat := digits.foldl (fun n c => n * 10 + (c.toNat - 48)) 0

/-- Digits at the front, at least one, and a leading zero only by itself. -/
def readWhole (cs : List Char) : Option (List Char × List Char) :=
  match cs with
  | '0' :: rest => some (['0'], rest)
  | _ =>
      let digits := cs.takeWhile Char.isDigit
      if digits.isEmpty then none else some (digits, cs.drop digits.length)

/-- Read a number. -/
def readNumber (cs : List Char) : Option (Json × List Char) :=
  let negative := cs.head? = some '-'
  match readWhole (if negative then cs.drop 1 else cs) with
  | none => none
  | some (whole, rest) =>
      let fraction := match rest with
        | '.' :: more => more.takeWhile Char.isDigit
        | _ => []
      let rest := if fraction.isEmpty then rest else rest.drop (fraction.length + 1)
      let exponent : Option (Bool × List Char × List Char) := match rest with
        | e :: more =>
            if e = 'e' || e = 'E' then
              let signed := more.head? = some '-' || more.head? = some '+'
              let digits := (if signed then more.drop 1 else more).takeWhile Char.isDigit
              if digits.isEmpty then none
              else some (more.head? = some '-', digits,
                (if signed then more.drop 1 else more).drop digits.length)
            else none
        | [] => none
      let mantissa := numberOf (whole ++ fraction)
      match exponent with
      | none =>
          if fraction.isEmpty then some (int (if negative then -mantissa else mantissa), rest)
          else
            let x := Decimal.scaled mantissa (-(fraction.length : Int))
            some (float (if negative then -x else x), rest)
      | some (below, digits, rest) =>
          let power : Int := (if below then -(numberOf digits : Int) else numberOf digits) -
            fraction.length
          let x := Decimal.scaled mantissa power
          some (float (if negative then -x else x), rest)

mutual

/-- Read a value. -/
def readValue : Nat → List Char → Option (Json × List Char)
  | 0, _ => none
  | fuel + 1, cs =>
      match skipBlanks cs with
      | 'n' :: 'u' :: 'l' :: 'l' :: rest => some (null, rest)
      | 't' :: 'r' :: 'u' :: 'e' :: rest => some (bool true, rest)
      | 'f' :: 'a' :: 'l' :: 's' :: 'e' :: rest => some (bool false, rest)
      | 'N' :: 'a' :: 'N' :: rest => some (float (0.0 / 0.0), rest)
      | 'I' :: 'n' :: 'f' :: 'i' :: 'n' :: 'i' :: 't' :: 'y' :: rest =>
          some (float (1.0 / 0.0), rest)
      | '-' :: 'I' :: 'n' :: 'f' :: 'i' :: 'n' :: 'i' :: 't' :: 'y' :: rest =>
          some (float (-1.0 / 0.0), rest)
      | '"' :: rest => (readText (rest.length + 1) [] rest).map fun (s, rest) =>
          (text (String.ofList s), rest)
      | '[' :: rest =>
          match skipBlanks rest with
          | ']' :: rest => some (array [], rest)
          | rest => (readItems fuel rest).map fun (items, rest) => (array items, rest)
      | '\x7b' :: rest =>
          match skipBlanks rest with
          | '\x7d' :: rest => some (object [], rest)
          | rest => (readFields fuel rest).map fun (fields, rest) =>
              (object (fields.foldl (fun all f => setField f.1 f.2 all) []), rest)
      | cs => readNumber cs

/-- Read the items of an array up to its end. -/
def readItems : Nat → List Char → Option (List Json × List Char)
  | 0, _ => none
  | fuel + 1, cs =>
      match readValue fuel cs with
      | none => none
      | some (j, rest) =>
          match skipBlanks rest with
          | ']' :: rest => some ([j], rest)
          | ',' :: rest => (readItems fuel rest).map fun (items, rest) => (j :: items, rest)
          | _ => none

/-- Read the fields of an object up to its end. -/
def readFields : Nat → List Char → Option (List (String × Json) × List Char)
  | 0, _ => none
  | fuel + 1, cs =>
      match skipBlanks cs with
      | '"' :: rest =>
          match readText (rest.length + 1) [] rest with
          | none => none
          | some (name, rest) =>
              match skipBlanks rest with
              | ':' :: rest =>
                  match readValue fuel rest with
                  | none => none
                  | some (j, rest) =>
                      let field := (String.ofList name, j)
                      match skipBlanks rest with
                      | '\x7d' :: rest => some ([field], rest)
                      | ',' :: rest => (readFields fuel rest).map fun (fields, rest) =>
                          (field :: fields, rest)
                      | _ => none
              | _ => none
      | _ => none

end

/-- Read a text that holds one value. -/
def parse? (s : String) : Option Json :=
  let cs := s.toList
  match readValue (cs.length + 1) cs with
  | some (j, rest) => if (skipBlanks rest).isEmpty then some j else none
  | none => none

end Assay.Json
