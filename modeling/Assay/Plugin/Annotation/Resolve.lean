import Assay.Check.Context
import Assay.Plugin.Annotation.Forming
import Assay.Source.Constant

/-!
# What annotations stand for

An annotation is worked out where the function is defined, by `ofText`. The texts in it are worked out
when somebody asks, by `resolve`.
-/

namespace Assay.Plugin.Annotation

open Source

/-- The classes that an annotation can name. -/
def classNames : List String :=
  ["CliContext", "EditorContext", "Context", "object", "Any", "int", "str", "float", "bool", "bytes",
    "complex", "list", "dict", "tuple", "set", "frozenset", "type", "Message", "Range", "Fix",
    "Severity"]

/-- What a name stands for. -/
def ofName (name : String) : Except Failure Annotation :=
  if classNames.contains name then .ok (.ofClass (.named name))
  else if name = "Optional" || name = "Union" then .ok (.former name)
  else if name = "_T" then .ok .typeVariable
  else .error (.of "NameError" s!"name '{name}' is not defined")

mutual

/-- What an expression stands for as an annotation. Expressions without a meaning for annotations
stand for no class. -/
def evaluate : Expr → Except Failure Annotation
  | .name _ id _ => ofName id
  | .literal _ value => .ok (.constant (literalValue value))
  | .sequence _ .tuple items _ => do return .tuple (← evaluateAll items)
  | .sequence _ .list items _ => do return .list (← evaluateAll items)
  | .subscript _ object index _ => do
      let a ← evaluate object
      a.applied (← evaluate index)
  | .operation _ .binary [left, right] => do
      let a ← evaluate left
      a.either (← evaluate right)
  | _ => .ok (.constant (literalValue .ellipsis))

/-- What expressions stand for as annotations. -/
def evaluateAll : List Expr → Except Failure (List Annotation)
  | [] => .ok []
  | e :: es => do
      let a ← evaluate e
      return a :: (← evaluateAll es)

end

/-- The annotation that is written as a text. -/
def ofText (text : String) : Except Failure Annotation :=
  match expression? text with
  | some e => evaluate e
  | none => .error (.of "SyntaxError" "invalid syntax")

/-- A text as an expression that is worked out later; other annotations are left alone. -/
def deferred : Annotation → Except Failure Annotation
  | .constant (.text t) => forwardTo t
  | a => .ok a

/-- Work out what is left for later, up to a depth. -/
def resolveTo : Nat → Annotation → Except Failure Annotation
  | 0, a => .ok a
  | depth + 1, a => match a with
    | .forward text => do
        let inner ← ofText text
        resolveTo depth (← inner.asType "Forward references must evaluate to types.")
    | .generic origin parts => do
        let parts ← parts.mapM deferred
        return .generic origin (← parts.mapM (resolveTo depth))
    | .choice parts => do return choose (← parts.mapM (resolveTo depth))
    | .union parts => do unite (← parts.mapM (resolveTo depth))
    | other => .ok other

/-- Work out all that is left for later. Every text that is read is longer than what its own texts
and brackets can be nested, so the depth of the annotation is enough. -/
def resolve (a : Annotation) : Except Failure Annotation := do
  let a ← a.asMember
  resolveTo (a.depth + 1) a

/-- What named annotations stand for. All of them must stand for something. -/
def resolveAll : List (String × Annotation) → Except Failure (List (String × Annotation))
  | [] => .ok []
  | (name, a) :: rest => do
      let hint ← a.resolve
      return (name, hint) :: (← resolveAll rest)

end Assay.Plugin.Annotation
