import Assay.Failure
import Assay.Plugin.Annotation.Basic
import Assay.Source.Parser.Statement
import Assay.Source.Placement.Stmt
import Assay.Source.Scope.Resolve

/-!
# Forming annotations

How annotations are made of others: `applied` puts one in brackets behind another, and `either` puts
a bar between two. A text in a union, or in the place of the type variable, is an expression that is
worked out later. It is read at once, though: a text that is no expression is refused.
-/

namespace Assay.Plugin.Annotation

open Source

/-! ## Expressions as texts -/

/-- Whether the names and constructs of an expression make sense outside any function. -/
def makesSense (e : Expr) : Bool :=
  let m : Source.Module := { body := [.expression e.span e] }
  (Scope.ofModule m).isOk && m.checkPlacement.isOk

/-- The expression that a text is. One that begins with a star is unpacked. -/
def expression? (text : String) : Option Expr :=
  let text := if text.startsWith "*" then "(" ++ text ++ ",)[0]" else text
  match Expr.ofText text with
  | .ok e => if makesSense e then some e else none
  | .error _ => none

/-- The expression that is worked out later and has a text. -/
def forwardTo (text : String) : Except Failure Annotation :=
  if text.isEmpty then .error (.of "IndexError" "string index out of range")
  else if text.toList.contains '\x00' then .error (.value nullCharacterMessage)
  else if (expression? text).isSome then .ok (.forward text)
  else
    .error (.of "SyntaxError"
      ("Forward reference must be an expression -- got " ++ Text.quoted text))

/-! ## Members -/

/-- An annotation as a member: nothing stands for its class, and a text for an expression. -/
def asMember : Annotation → Except Failure Annotation
  | .constant .none => .ok noneClass
  | .constant (.text t) => forwardTo t
  | a => .ok a

/-- How many characters of a refused annotation are shown. -/
def shownLength : Nat := 100

/-- An annotation as a member of something that takes only types. What forms unions is none before
it has formed one, and items are none; `message` says what is needed. -/
def asType (message : String) (a : Annotation) : Except Failure Annotation := do
  match ← a.asMember with
  | .former name => throw (.type s!"Plain typing.{name} is not valid as type argument")
  | .tuple items =>
      let got := String.ofList ((shown (.tuple items)).toList.take shownLength)
      throw (.type s!"{message} Got {got}.")
  | a => return a

/-- The members that annotations bring into a union. -/
def alternatives (parts : List Annotation) : List Annotation :=
  parts.flatMap fun
    | .union inner | .choice inner => inner
    | .constant .none => [noneClass]
    | a => [a]

/-- The first of each group of equal annotations. -/
def distinct (parts : List Annotation) : List Annotation :=
  parts.foldl (fun done a => if done.any (a.same ·) then done else done ++ [a]) []

/-- A union in brackets: its members count once, and a single one is the union. -/
def unite (parts : List Annotation) : Except Failure Annotation :=
  let parts := alternatives parts
  if haveList parts then .error (.type "unhashable type: 'list'")
  else match distinct parts with
    | [one] => .ok one
    | many => .ok (.union many)

/-- A union in brackets of annotations as they are written. -/
def unionOf (parts : List Annotation) : Except Failure Annotation := do
  unite (← parts.mapM (asType "Union[arg, ...]: each arg must be a type."))

/-- A union by a bar: its members count once, and a single one is the union. -/
def choose (parts : List Annotation) : Annotation :=
  match distinct (alternatives parts) with
  | [one] => one
  | many => .choice many

/-! ## Bars -/

/-- Two whole numbers or truth values with a bar between them. -/
def numberWithBar? : Annotation → Annotation → Option Annotation
  | .constant (.bool a), .constant (.bool b) => some (.constant (.bool (a || b)))
  | .constant v, .constant w => match v.number?, w.number? with
    | some (.inl a), some (.inl b) => some (.constant (.int (Nat.lor a.toNat b.toNat)))
    | _, _ => none
  | _, _ => none

/-- Whether a bar beside an annotation makes a union in brackets. -/
def makesUnion : Annotation → Bool
  | .former _ | .typeVariable | .forward _ | .union _ => true
  | _ => false

/-- Whether an annotation can stand in a union by a bar. -/
def isAlternative : Annotation → Bool
  | .constant .none | .ofClass _ | .generic .. | .choice _ => true
  | _ => false

/-- Whether an annotation is nothing. -/
def isNothing : Annotation → Bool
  | .constant .none => true
  | _ => false

/-- Two annotations with a bar between them. -/
def either (a b : Annotation) : Except Failure Annotation :=
  match numberWithBar? a b with
  | some n => .ok n
  | none =>
      if a.makesUnion then unionOf [a, b]
      else if a.isAlternative && b.isAlternative && !(a.isNothing && b.isNothing) then
        .ok (choose [a, b])
      else if b.makesUnion then unionOf [a, b]
      else
        let left := a.typeName
        let right := b.typeName
        .error (.type s!"unsupported operand type(s) for |: '{left}' and '{right}'")

/-! ## Brackets -/

mutual

/-- Put a type in the place of the type variable. -/
def fill (type : Annotation) : Annotation → Except Failure Annotation
  | .typeVariable => .ok type
  | .generic origin parts => do return .generic origin (← fillAll type parts)
  | .choice parts => do return choose (← fillAll type parts)
  | .union parts => do unite (← fillAll type parts)
  | a => .ok a

/-- Put a type in the place of the type variable in several annotations. -/
def fillAll (type : Annotation) : List Annotation → Except Failure (List Annotation)
  | [] => .ok []
  | a :: as => do
      let a ← fill type a
      return a :: (← fillAll type as)

end

/-- Put what stands in brackets in the place of the type variable. -/
def instantiate (a : Annotation) (arguments : List Annotation) : Except Failure Annotation :=
  let name := a.shown
  if !a.isOpen then .error (.type s!"{name} is not a generic class")
  else do
    let arguments ← match a with
      | .union _ => arguments.mapM asMember
      | _ => pure arguments
    match arguments with
    | [one] => fill (← one.asType "Parameters to generic types must be types.") a
    | _ =>
        let extent := if arguments.isEmpty then "few" else "many"
        let count := Json.writeInt arguments.length
        throw (.type s!"Too {extent} arguments for {name}; actual {count}, expected 1")

/-- The place that an annotation stands for as an index. -/
def position? : Annotation → Option Nat
  | .constant v => match v.number? with
    | some (.inl n) => some n.toNat
    | _ => none
  | _ => none

/-- The item of some items at an index; `type` is what they are together. -/
def itemAt (type : String) (items : List Annotation) (index : Annotation) :
    Except Failure Annotation :=
  match index.position? with
  | some n => match items[n]? with
    | some item => .ok item
    | none => .error (.of "IndexError" s!"{type} index out of range")
  | none =>
      let given := index.typeName
      .error (.type s!"{type} indices must be integers or slices, not {given}")

/-- The character of a text at an index. -/
def charAt (text : String) (index : Annotation) : Except Failure Annotation :=
  match index.position? with
  | some n => match text.toList[n]? with
    | some c => .ok (.constant (.text c.toString))
    | none => .error (.of "IndexError" "string index out of range")
  | none =>
      let given := index.typeName
      .error (.type s!"string indices must be integers, not '{given}'")

/-- The classes that take others in brackets. -/
def genericNames : List String := ["list", "dict", "tuple", "set", "frozenset", "type"]

/-- An annotation with another in brackets behind it. -/
def applied (a index : Annotation) : Except Failure Annotation :=
  let arguments := match index with
    | .tuple items => items
    | one => [one]
  match a with
  | .former name =>
      if name = "Optional" then do
        unite [← index.asType "typing.Optional requires a single type.", noneClass]
      else if arguments.isEmpty then .error (.type "Cannot take a Union of no types.")
      else unionOf arguments
  | .ofClass c =>
      let name := c.name
      if genericNames.contains name then .ok (.generic name arguments)
      else .error (.type s!"type '{name}' is not subscriptable")
  | .generic .. | .choice _ | .union _ => a.instantiate arguments
  | .tuple items => itemAt "tuple" items index
  | .list items => itemAt "list" items index
  | .constant (.text t) => charAt t index
  | _ =>
      let given := a.typeName
      .error (.type s!"'{given}' object is not subscriptable")

end Assay.Plugin.Annotation
