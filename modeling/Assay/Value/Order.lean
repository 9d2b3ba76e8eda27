import Assay.Value.Text

/-!
# Order of values

Texts are ordered by their characters, numbers by their size, and lists item by item. Other values
have no order, and a sort that has to compare two of them fails.
-/

namespace Assay.Value

/-- Whether a whole number is less than a floating-point number. -/
def wholeLt (n : Int) (x : Float) : Bool :=
  if x.isNaN then false
  else if x.isInf then 0.0 < x
  else
    let b := Decimal.Binary.ofFloat x
    let mantissa : Int := if x < 0.0 then -(b.mantissa : Int) else b.mantissa
    if 0 ≤ b.exponent then n < mantissa * Nat.pow 2 b.exponent.toNat
    else n * Nat.pow 2 (-b.exponent).toNat < mantissa

/-- Whether a number is less than another. -/
def numberLt : Int ⊕ Float → Int ⊕ Float → Bool
  | .inl a, .inl b => a < b
  | .inl a, .inr x => wholeLt a x
  | .inr x, .inl a => !x.isNaN && !(wholeLt a x) && !(sameNumber (.inl a) (.inr x))
  | .inr x, .inr y => x < y

/-- The message for two values without an order. -/
def unordered (a b : Value) : String :=
  "'<' not supported between instances of '" ++ a.typeName ++ "' and '" ++ b.typeName ++ "'"

mutual

/-- Whether a value is less than another, or the message that they have no order. -/
def less : Value → Value → Except String Bool
  | bytes a, bytes b => .ok (a < b)
  | list as, list bs => lessItems as bs
  | tuple as, tuple bs => lessItems as bs
  | path p, path q => .ok (p.lt q)
  | a, b => match a.text?, b.text? with
    | some s, some t => .ok (s < t)
    | _, _ => match a.number?, b.number? with
      | some x, some y => .ok (numberLt x y)
      | _, _ => .error (unordered a b)

/-- Whether a list is less than another: their first items that differ decide. -/
def lessItems : List Value → List Value → Except String Bool
  | [], bs => .ok (!bs.isEmpty)
  | _ :: _, [] => .ok false
  | a :: as, b :: bs => if same a b then lessItems as bs else less a b

end

/-- Values that are texts are ordered like these texts. -/
theorem less_of_texts {a b : Value} {s t : String} (ha : a.text? = some s) (hb : b.text? = some t) :
    less a b = .ok (decide (s < t)) := by
  rw [less]
  · rw [ha, hb]
  all_goals
    rintro _ _ rfl
    cases ha

theorem less_texts (s t : String) : less (text s) (text t) = .ok (decide (s < t)) :=
  less_of_texts (text?_text s) (text?_text t)

/-- Insert an item before the first one that it is less than. -/
def insertBy {α : Type} (less : α → α → Bool) (x : α) : List α → List α
  | [] => [x]
  | y :: ys => if less x y then x :: y :: ys else y :: insertBy less x ys

/-- Sort items; equal ones keep their order. -/
def sortBy {α : Type} (less : α → α → Bool) (xs : List α) : List α :=
  xs.foldl (fun done x => insertBy less x done) []

/-- Where an item belongs among sorted ones between two places: the middle one decides on which side
to look on. -/
def placeOf {α ε : Type} (less : α → α → Except ε Bool) (x : α) (done : Array α) :
    Nat → Nat → Nat → Except ε Nat
  | 0, first, _ => .ok first
  | fuel + 1, first, last =>
      if first < last then do
        let middle := (first + last) / 2
        match done[middle]? with
        | some y =>
            if ← less x y then placeOf less x done fuel first middle
            else placeOf less x done fuel (middle + 1) last
        | Option.none => .ok first
      else .ok first

/-- Insert an item behind those that it is not less than. -/
def insertIfOrdered {α ε : Type} (less : α → α → Except ε Bool) (done : Array α) (x : α) :
    Except ε (Array α) := do
  let place ← placeOf less x done (done.size + 1) 0 done.size
  return (done.extract 0 place).push x ++ done.extract place done.size

/-- The items at the front of which each is less than the one before it, or each is not; the last one
of them is given apart. -/
def takeRun {α ε : Type} (less : α → α → Except ε Bool) (descending : Bool) (last : α) :
    List α → Except ε (List α × List α)
  | [] => .ok ([], [])
  | x :: xs => do
      if (← less x last) = descending then
        let (run, rest) ← takeRun less descending x xs
        return (x :: run, rest)
      else return ([], x :: xs)

/-- The items at the front that are in order or in the opposite one, put in order, and the rest. -/
def firstRun {α ε : Type} (less : α → α → Except ε Bool) : List α → Except ε (List α × List α)
  | x :: y :: rest => do
      let descending ← less y x
      let (run, rest) ← takeRun less descending y rest
      return (if descending then (x :: y :: run).reverse else x :: y :: run, rest)
  | xs => .ok (xs, [])

/-- Sort items, unless two of them that are compared have no order. The items at the front that are
in order are taken as they are; the others are inserted one after the other. -/
def sortIfOrdered {α ε : Type} (less : α → α → Except ε Bool) (xs : List α) :
    Except ε (List α) := do
  let (run, rest) ← firstRun less xs
  return (← rest.foldlM (insertIfOrdered less) run.toArray).toList

/-- Sort values, or the message for two of them without an order. -/
def sorted (vs : List Value) : Except String (List Value) := sortIfOrdered less vs

end Assay.Value
