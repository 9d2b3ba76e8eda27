import Assay.Failure

/-!
# Schemas

A schema says which values a document may hold. Checking a document gives all faults; the one that
is reported lies at the shortest path, and of several of these at the greatest.
-/

namespace Assay.Report

/-- A schema. -/
inductive Schema where
  | text (leastLength : Nat)
  | integer (minimum : Option Int)
  | constant (value : String)
  | oneOf (values : List String)
  | object (required : List String) (properties : List (String × Schema))
  | array (leastItems : Nat) (items : Schema)

/-- A step into a value: to the entry of a mapping or to the item of a list. -/
inductive Step where
  | key (name : String)
  | index (number : Nat)
  deriving DecidableEq, Repr

/-- What is wrong with a value, and where. -/
structure SchemaFault where
  path : List Step
  message : String
  deriving DecidableEq, Repr

namespace Schema

/-- The entry of a mapping under a name. -/
def lookup? (name : String) (entries : List (Value × Value)) : Option Value :=
  (entries.find? fun e => e.1.same (.text name)).map (·.2)

/-- Whether a value is a whole number; truth values are none. -/
def wholeNumber? : Value → Option Int
  | .bool _ => none
  | v => match v.number? with
    | some (.inl n) => some n
    | some (.inr x) => Value.wholeOfFloat? x
    | none => none

/-- A value of the wrong type. -/
def wrongType (path : List Step) (v : Value) (type : String) : SchemaFault :=
  ⟨path, v.shown ++ " is not of type '" ++ type ++ "'"⟩

mutual

/-- All faults of a value at a path. -/
def faults : Schema → List Step → Value → List SchemaFault
  | text leastLength, path, v => match v.text? with
    | some s => if s.length < leastLength then [⟨path, v.shown ++ " should be non-empty"⟩] else []
    | none => [wrongType path v "string"]
  | integer minimum, path, v => match wholeNumber? v with
    | some n => match minimum with
      | some least =>
          if n < least then
            [⟨path, v.shown ++ " is less than the minimum of " ++ Json.writeInt least⟩]
          else []
      | none => []
    | none => [wrongType path v "integer"]
  | constant value, path, v =>
      if v.same (.text value) then [] else [⟨path, Text.quoted value ++ " was expected"⟩]
  | oneOf values, path, v =>
      if values.any fun value => v.same (.text value) then []
      else [⟨path, v.shown ++ " is not one of " ++ (Value.list (values.map Value.text)).shown⟩]
  | object required properties, path, v => match v with
    | .mapping entries =>
        (required.filter fun name => (lookup? name entries).isNone).map
          (fun name => ⟨path, Text.quoted name ++ " is a required property"⟩) ++
        propertyFaults properties path entries
    | _ => [wrongType path v "object"]
  | array leastItems items, path, v => match v with
    | .list values =>
        (if values.length < leastItems then [⟨path, v.shown ++ " should be non-empty"⟩] else []) ++
        values.zipIdx.flatMap fun (value, i) => faults items (path ++ [.index i]) value
    | _ => [wrongType path v "array"]

/-- All faults of the entries of a mapping. -/
def propertyFaults : List (String × Schema) → List Step → List (Value × Value) →
    List SchemaFault
  | [], _, _ => []
  | (name, schema) :: rest, path, entries =>
      (match lookup? name entries with
        | some v => faults schema (path ++ [.key name]) v
        | none => []) ++ propertyFaults rest path entries

end

/-- Whether a step is greater than another. -/
def stepGreater : Step → Step → Bool
  | .key a, .key b => b < a
  | .index a, .index b => b < a
  | _, _ => false

/-- Whether a path is greater than another: their first steps that differ decide. -/
def pathGreater : List Step → List Step → Bool
  | [], _ => false
  | _ :: _, [] => true
  | a :: as, b :: bs => if a = b then pathGreater as bs else stepGreater a b

/-- Whether a fault is rather reported than another. -/
def outranks (f g : SchemaFault) : Bool :=
  f.path.length < g.path.length ||
    (f.path.length = g.path.length && pathGreater f.path g.path)

/-- The fault that is reported: no other one outranks it, and of equals it is the first. -/
def best : List SchemaFault → Option SchemaFault
  | [] => none
  | f :: rest => some (rest.foldl (fun chosen g => if outranks g chosen then g else chosen) f)

/-- Check a value. -/
def check (schema : Schema) (v : Value) : Option SchemaFault := best (schema.faults [] v)

end Schema

/-- A fault of a schema as a failure. -/
def SchemaFault.toFailure (f : SchemaFault) : Failure :=
  { kind := "ValidationError", text := f.message,
    shown := "<ValidationError: " ++ Text.quoted f.message ++ ">" }

end Assay.Report
