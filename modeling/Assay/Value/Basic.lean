import Assay.Decimal.Shortest
import Assay.File.Path
import Assay.Json.Basic

/-!
# Values

Configuration files, plugins and reports hand over values of many types: the fields of a message, the
name of an analyzer, the entries of a configuration. `Value` is the type of all of them. What is
known of a value besides its type is what can be seen of it: its parts, or the text it is shown as.
-/

namespace Assay

/-- What a member of an enumeration is besides a member: nothing else; the number or text that it
stands for as well; or this number or text, and written like it. -/
inductive MemberKind where
  | plain
  | mixed
  | written
  deriving DecidableEq, Repr, Inhabited

/-- A value. Members belong to an enumeration and stand for another value; records are written as a
mapping; of other things only the texts are known that show them among others and alone. -/
inductive Value where
  | none
  | bool (value : Bool)
  | int (value : Int)
  | float (value : Float)
  | text (value : String)
  | bytes (value : List UInt8)
  | list (items : List Value)
  | tuple (items : List Value)
  | set (frozen : Bool) (items : List Value)
  | mapping (entries : List (Value × Value))
  | path (value : Path)
  | member (enumeration name : String) (kind : MemberKind) (value : Value)
  | record (type shown : String) (written : Value)
  | thing (type shown text : String)
  deriving Inhabited

namespace Value

/-- The name of the type of a value. -/
def typeName : Value → String
  | none => "NoneType"
  | bool _ => "bool"
  | int _ => "int"
  | float _ => "float"
  | text _ => "str"
  | bytes _ => "bytes"
  | list _ => "list"
  | tuple _ => "tuple"
  | set frozen _ => if frozen then "frozenset" else "set"
  | mapping _ => "dict"
  | path _ => "PosixPath"
  | member enumeration _ _ _ => enumeration
  | record type _ _ => type
  | thing type _ _ => type

/-- Whether a value counts as true: it is neither nothing, nor zero, nor empty. -/
def isTrue : Value → Bool
  | none => false
  | bool b => b
  | int n => n ≠ 0
  | float x => !(x == 0.0)
  | text s => s ≠ ""
  | bytes bs => !bs.isEmpty
  | list items | tuple items | set _ items => !items.isEmpty
  | mapping entries => !entries.isEmpty
  | member _ _ kind v => kind = .plain || isTrue v
  | path _ | record .. | thing .. => true

/-- Whether a value is the member of an enumeration with a name. -/
def isMember (enumeration name : String) : Value → Bool
  | member e n _ _ => e == enumeration && n == name
  | _ => false

/-- The text of a value that is one. -/
def text? : Value → Option String
  | text s => some s
  | member _ _ kind v => if kind = .plain then Option.none else text? v
  | _ => Option.none

mutual

/-- The type that keeps a value from being a key: lists, sets that can change, and mappings. -/
def unhashable? : Value → Option String
  | list _ => some "list"
  | set frozen _ => if frozen then Option.none else some "set"
  | mapping _ => some "dict"
  | tuple items => unhashableAmong? items
  | member _ _ kind v => if kind = .plain then Option.none else unhashable? v
  | _ => Option.none

/-- The first type among some values that keeps them from being keys. -/
def unhashableAmong? : List Value → Option String
  | [] => Option.none
  | v :: vs => (unhashable? v).or (unhashableAmong? vs)

end

/-- The type that keeps a value from being looked for in a set. Only keys can be, and sets, which are
looked for by their items. -/
def unsearchable? : Value → Option String
  | set .. => Option.none
  | v => unhashable? v

theorem unsearchable?_of_unhashable? (v : Value) (h : v.unhashable? = Option.none) :
    v.unsearchable? = Option.none := by
  cases v <;> first | rfl | exact h

/-- The whole number that a floating-point number is, if it is one. -/
def wholeOfFloat? (x : Float) : Option Int :=
  if x.isNaN || x.isInf then Option.none
  else
    let b := Decimal.Binary.ofFloat x
    let (above, below) := Decimal.powerFraction 2 b.exponent
    let magnitude := b.mantissa * above
    if magnitude % below = 0 then
      some (if x < 0.0 then -(magnitude / below : Nat) else (magnitude / below : Nat))
    else Option.none

/-- A value as a number: truth values count as one and zero. -/
def number? : Value → Option (Int ⊕ Float)
  | bool b => some (.inl (if b then 1 else 0))
  | int n => some (.inl n)
  | float x => some (.inr x)
  | member _ _ kind v => if kind = .plain then Option.none else number? v
  | _ => Option.none

/-- Whether two numbers are equal. -/
def sameNumber : Int ⊕ Float → Int ⊕ Float → Bool
  | .inl a, .inl b => a = b
  | .inl a, .inr x => wholeOfFloat? x = some a
  | .inr x, .inl a => wholeOfFloat? x = some a
  | .inr x, .inr y => x == y

/-- Whether two values are equal numbers. -/
def sameNumbers (a b : Value) : Bool :=
  match a.number?, b.number? with
  | some x, some y => sameNumber x y
  | _, _ => false

mutual

/-- Equality of values. Numbers of different types can be equal, and the order of the entries of a
mapping or a set does not matter. A member that is nothing else is equal to itself only. -/
def same : Value → Value → Bool
  | none, none => true
  | text a, b => some a == b.text?
  | bytes a, bytes b => a == b
  | list as, list bs => sameItems as bs
  | tuple as, tuple bs => sameItems as bs
  | set _ as, set _ bs => as.length = bs.length && allAmong as bs
  | mapping as, mapping bs => as.length = bs.length && entriesAmong as bs
  | path a, path b => a = b
  | member enumeration name kind a, b =>
      if kind = .plain then b.isMember enumeration name else same a b
  | record t a _, record u b _ => t == u && a == b
  | thing t a _, thing u b _ => t == u && a == b
  | bool a, b => sameNumbers (bool a) b
  | int a, b => sameNumbers (int a) b
  | float a, b => sameNumbers (float a) b
  | _, _ => false

/-- Whether two lists of values are equal. -/
def sameItems : List Value → List Value → Bool
  | [], [] => true
  | a :: as, b :: bs => same a b && sameItems as bs
  | _, _ => false

/-- Whether all of some values are among others. -/
def allAmong : List Value → List Value → Bool
  | [], _ => true
  | a :: as, bs => bs.any (fun b => same a b) && allAmong as bs

/-- Whether all of some entries are among others. -/
def entriesAmong : List (Value × Value) → List (Value × Value) → Bool
  | [], _ => true
  | (k, v) :: rest, bs => bs.any (fun b => same k b.1 && same v b.2) && entriesAmong rest bs

end

@[simp] theorem text?_text (s : String) : (text s).text? = some s := by rw [text?]

theorem same_text (s : String) (v : Value) : same (text s) v = (some s == v.text?) := by rw [same]

/-- What a value that is a text stands for cannot change. -/
theorem unhashable?_of_text : (v : Value) → v.text?.isSome = true → v.unhashable? = Option.none
  | text _, _ => by rw [unhashable?] <;> simp
  | member _ _ kind v, h => by
      rw [text?] at h
      rw [unhashable?]
      split at h
      next => cases h
      next hkind => rw [if_neg hkind, unhashable?_of_text v h]

/-- A value that is a text is equal to those that are the same text. -/
theorem same_of_text (b : Value) : (a : Value) → ∀ {s : String}, a.text? = some s →
    a.same b = (some s == b.text?)
  | text _, _, h => by rw [same_text, ← h, text?_text]
  | member _ _ kind a, _, h => by
      rw [text?] at h
      rw [same]
      split at h
      next => cases h
      next hkind => rw [if_neg hkind, same_of_text b a h]

instance : BEq Value := ⟨same⟩

mutual

/-- A JSON value. -/
def ofJson : Json → Value
  | .null => none
  | .bool b => bool b
  | .int n => int n
  | .float x => float x
  | .text s => text s
  | .array items => list (ofJsonItems items)
  | .object fields => mapping (ofJsonFields fields)

/-- The items of a JSON array. -/
def ofJsonItems : List Json → List Value
  | [] => []
  | j :: rest => ofJson j :: ofJsonItems rest

/-- The fields of a JSON object. -/
def ofJsonFields : List (String × Json) → List (Value × Value)
  | [] => []
  | (name, j) :: rest => (text name, ofJson j) :: ofJsonFields rest

end

end Value

end Assay
