import Assay.Failure

/-!
# Canonical texts of values

A value is written as JSON with its fields in the order of their names. Whole numbers can be too long
to be written; where one would be, there is no text.
-/

namespace Assay

/-- Whether a whole number is too long to be written. -/
def isTooLong (n : Int) : Bool := Nat.pow 10 Decimal.digitLimit ≤ n.natAbs

namespace Value

/-- The failure to write a whole number that is too long. -/
def tooLong : Failure := .value (Decimal.limitText ++ "; " ++ Decimal.limitHint)

mutual

/-- Whether a value cannot be shown, because of a whole number that is too long. -/
def isTooLongShown : Value → Bool
  | int n => isTooLong n
  | list items | tuple items | set _ items => areTooLongShown items
  | mapping entries => entriesTooLongShown entries
  | member _ _ _ value | record _ _ value => isTooLongShown value
  | _ => false

/-- Whether one of some values cannot be shown. -/
def areTooLongShown : List Value → Bool
  | [] => false
  | v :: vs => isTooLongShown v || areTooLongShown vs

/-- Whether one of some entries cannot be shown. -/
def entriesTooLongShown : List (Value × Value) → Bool
  | [] => false
  | (k, v) :: rest => isTooLongShown k || isTooLongShown v || entriesTooLongShown rest

end

/-- Whether a value has no text, because of a whole number that is too long. A member that is told by
its name always has one. -/
def isTooLong : Value → Bool
  | member _ _ kind v => kind = .written && isTooLong v
  | v => v.isTooLongShown

/-- The text of a value, if it has one. -/
def str? (v : Value) : Except Failure String := if v.isTooLong then .error tooLong else .ok v.str

mutual

/-- Whether a value has no JSON form, because one of its keys has no text. It does not matter whether
a later key replaces the entry. -/
def hasTooLongKey : Value → Bool
  | list items | tuple items | set _ items => haveTooLongKeys items
  | mapping entries => entriesTooLongKeyed entries
  | member _ _ _ value | record _ _ value => hasTooLongKey value
  | _ => false

/-- Whether one of some values has a key without a text. -/
def haveTooLongKeys : List Value → Bool
  | [] => false
  | v :: vs => hasTooLongKey v || haveTooLongKeys vs

/-- Whether one of some entries has a key without a text. -/
def entriesTooLongKeyed : List (Value × Value) → Bool
  | [] => false
  | (k, v) :: rest => k.isTooLong || hasTooLongKey v || entriesTooLongKeyed rest

end

end Value

mutual

/-- Whether a JSON value has a whole number that is too long to be written. -/
def Json.isTooLong : Json → Bool
  | .int n => Assay.isTooLong n
  | .array items => Json.areTooLong items
  | .object fields => Json.fieldsTooLong fields
  | _ => false

/-- Whether one of some JSON values has a number that is too long. -/
def Json.areTooLong : List Json → Bool
  | [] => false
  | j :: rest => Json.isTooLong j || Json.areTooLong rest

/-- Whether one of some fields has a number that is too long. -/
def Json.fieldsTooLong : List (String × Json) → Bool
  | [] => false
  | (_, j) :: rest => Json.isTooLong j || Json.fieldsTooLong rest

end

/-- The canonical JSON text of a value, with a line end. It has none if a key has no text, or if a
number that is left in its JSON form is too long. -/
def Value.canonicalText (i : Json.Indent) (v : Value) : Except Failure String :=
  if v.hasTooLongKey || v.toJson.isTooLong then .error tooLong
  else .ok (Json.canonicalText i v.toJson)

end Assay
