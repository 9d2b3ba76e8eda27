import Assay.Failure

/-!
# Items of values

Lists and the like have items, a text has its characters, and a mapping its keys. Other values have
no items, and asking for them fails.
-/

namespace Assay.Value

/-- The items of a value. -/
def items : Value → Except Failure (List Value)
  | list vs | tuple vs | set _ vs => .ok vs
  | mapping entries => .ok (entries.map (·.1))
  | v => match v.text? with
    | some s => .ok (s.toList.map fun c => text c.toString)
    | Option.none => .error (.type ("'" ++ v.typeName ++ "' object is not iterable"))

/-- The failure of a value of a type that is not fit to be a key. -/
def keyFailure (type : String) : Failure := .type s!"unhashable type: '{type}'"

/-- Fail for a value that is not fit to be a key. -/
def requireKey (v : Value) : Except Failure Unit :=
  match v.unhashable? with
  | some type => .error (keyFailure type)
  | Option.none => .ok ()

/-- Fail for a value that cannot be looked for in a set. -/
def requireSearchable (v : Value) : Except Failure Unit :=
  match v.unsearchable? with
  | some type => .error (keyFailure type)
  | Option.none => .ok ()

/-- The items of a value that are looked up by equality; all of them must be fit to be keys. -/
def keys (v : Value) : Except Failure (List Value) := do
  let vs ← v.items
  vs.forM requireKey
  return vs

/-- Join values that must be texts. -/
def joinTexts (vs : List Value) : Except Failure String :=
  match vs.findIdx? fun v => v.text?.isNone with
  | some i => .error (.type ("sequence item " ++ Json.writeInt i ++ ": expected str instance, " ++
      ((vs[i]?).getD none).typeName ++ " found"))
  | Option.none => .ok (commaed (vs.filterMap text?))

end Assay.Value
