/-!
# JSON values

Objects keep the order of their fields. Numbers without a point or an exponent are integers of any
size, all others are floating-point numbers.
-/

namespace Assay

/-- A JSON value. -/
inductive Json where
  | null
  | bool (value : Bool)
  | int (value : Int)
  | float (value : Float)
  | text (value : String)
  | array (items : List Json)
  | object (fields : List (String × Json))
  deriving Inhabited

namespace Json

/-- The value of a field. -/
def field? (j : Json) (name : String) : Option Json :=
  match j with
  | object fields => (fields.find? fun f => f.1 == name).map (·.2)
  | _ => none

/-- Set a field: an old one in its place, a new one at the end. -/
def setField (name : String) (value : Json) : List (String × Json) → List (String × Json)
  | [] => [(name, value)]
  | f :: rest => if f.1 == name then (name, value) :: rest else f :: setField name value rest

/-- The text of a value that is one. -/
def text? : Json → Option String
  | text s => some s
  | _ => none

/-- The items of a value that is an array. -/
def array? : Json → Option (List Json)
  | array items => some items
  | _ => none

end Json

end Assay
