import Assay.Check.Context

/-!
# Annotations

What the annotation of a parameter stands for. Only classes matter to the host: it gives an analyzer
nothing that its annotation excludes. All else that can be written in an annotation is kept as far
as it shows when it is combined further: in the classes that come out of it, or in a refusal.

Unions can be formed in two ways, by a bar or in brackets. They are equal if their members are, but
they are shown differently and combine by different rules.
-/

namespace Assay.Plugin

open Check

/-- A class, which is known by its name. It says itself whether the contexts of a host belong to it,
and can refuse to. -/
structure Class where
  name : String
  metaclass : String := "type"
  holds : HostKind → Except Failure Bool := fun _ => .ok false

/-- The class of a name that annotations know. The contexts of a host belong to their own class and
to those above it. -/
def Class.named (name : String) : Class :=
  { name, metaclass := if name = "Any" then "_AnyMeta" else "type"
    holds := fun kind => .ok (name = kind.contextName || name = "Context" || name = "object") }

/-- What an annotation stands for: a class, a constant, the type variable, something that forms
unions, an expression that is worked out later, unions and generic classes, or items. -/
inductive Annotation where
  | ofClass (c : Class)
  | constant (value : Value)
  | typeVariable
  | former (name : String)
  | forward (text : String)
  | union (parts : List Annotation)
  | choice (parts : List Annotation)
  | generic (origin : String) (parts : List Annotation)
  | tuple (items : List Annotation)
  | list (items : List Annotation)
  deriving Inhabited

namespace Annotation

/-- The class of nothing. -/
def noneClass : Annotation := .ofClass (.named "NoneType")

/-- Whether an annotation is the class of nothing. -/
def isNoneClass : Annotation → Bool
  | .ofClass c => c.name = "NoneType"
  | _ => false

/-! ## Equality -/

mutual

/-- Equality of annotations. The order of the members of a union does not matter. -/
def same : Annotation → Annotation → Bool
  | .ofClass a, .ofClass b => a.name = b.name
  | .constant a, .constant b => a == b
  | .typeVariable, .typeVariable => true
  | .former a, .former b => a = b
  | .forward a, .forward b => a = b
  | .union as, .union bs => as.length = bs.length && allAmong as bs
  | .union as, .choice bs => as.length = bs.length && allAmong as bs
  | .choice as, .union bs => as.length = bs.length && allAmong as bs
  | .choice as, .choice bs => as.length = bs.length && allAmong as bs
  | .generic o as, .generic p bs => o = p && sameAll as bs
  | .tuple as, .tuple bs => sameAll as bs
  | .list as, .list bs => sameAll as bs
  | _, _ => false

/-- Whether two lists of annotations are equal. -/
def sameAll : List Annotation → List Annotation → Bool
  | [], [] => true
  | a :: as, b :: bs => same a b && sameAll as bs
  | _, _ => false

/-- Whether all of some annotations are among others. -/
def allAmong : List Annotation → List Annotation → Bool
  | [], _ => true
  | a :: as, bs => bs.any (fun b => same a b) && allAmong as bs

end

instance : BEq Annotation := ⟨same⟩

/-! ## What is inside -/

mutual

/-- Whether the type variable is a member at some depth, so that something can be put in its
place. -/
def isOpen : Annotation → Bool
  | .typeVariable => true
  | .union parts | .choice parts | .generic _ parts => areOpen parts
  | _ => false

/-- Whether one of some annotations is open. -/
def areOpen : List Annotation → Bool
  | [] => false
  | a :: as => isOpen a || areOpen as

end

mutual

/-- Whether an annotation has a list inside, which keeps it out of unions in brackets. -/
def hasList : Annotation → Bool
  | .list _ => true
  | .union parts | .choice parts | .generic _ parts | .tuple parts => haveList parts
  | _ => false

/-- Whether one of some annotations has a list inside. -/
def haveList : List Annotation → Bool
  | [] => false
  | a :: as => hasList a || haveList as

end

mutual

/-- How deeply an annotation is nested at most, with all that its texts can stand for. -/
def depth : Annotation → Nat
  | .constant (.text t) | .forward t => t.length + 2
  | .union parts | .choice parts | .generic _ parts | .tuple parts | .list parts =>
      depthOfAll parts + 1
  | _ => 1

/-- How deeply annotations are nested at most. -/
def depthOfAll : List Annotation → Nat
  | [] => 0
  | a :: as => max (depth a) (depthOfAll as)

end

/-! ## Types -/

/-- The name of the type of what an annotation stands for. -/
def typeName : Annotation → String
  | .ofClass c => c.metaclass
  | .constant v => v.typeName
  | .typeVariable => "TypeVar"
  | .former _ => "_SpecialForm"
  | .forward _ => "ForwardRef"
  | .union _ => "_UnionGenericAlias"
  | .choice _ => "types.UnionType"
  | .generic .. => "types.GenericAlias"
  | .tuple _ => "tuple"
  | .list _ => "list"

/-! ## As a text -/

/-- Where an annotation is shown: by itself, in brackets, or between bars. -/
inductive Place where
  | alone
  | inBrackets
  | betweenBars
  deriving DecidableEq

/-- The name of a class with the module that defines it. -/
def qualifiedName (name : String) : String :=
  if ["Context", "CliContext", "EditorContext"].contains name then
    "analyzer_host.model.context." ++ name
  else if ["Message", "Range", "Fix"].contains name then "analyzer_host.model.message." ++ name
  else if name = "Severity" then "analyzer_host.model." ++ name
  else if name = "Any" then "typing." ++ name
  else name

/-- How a class is shown. -/
def shownClass (place : Place) (name : String) : String :=
  if place = .alone && name ≠ "Any" then "<class '" ++ qualifiedName name ++ "'>"
  else if place = .betweenBars && name = "NoneType" then "None"
  else qualifiedName name

/-- How a constant is shown. -/
def shownConstant (place : Place) (v : Value) : String :=
  if place ≠ .alone && v.typeName = "ellipsis" then "..." else v.shown

mutual

/-- How an annotation is shown in a place. A union of two members is an option if one of them is the
class of nothing. -/
def shownAt (place : Place) : Annotation → String
  | .ofClass c => shownClass place c.name
  | .constant v => shownConstant place v
  | .typeVariable => "~_T"
  | .former name => "typing." ++ name
  | .forward t => "ForwardRef(" ++ Text.quoted t ++ ")"
  | .union parts =>
      let texts := shownAllAt .inBrackets parts
      match parts, texts with
      | [a, b], [s, t] =>
          if a.isNoneClass then "typing.Optional[" ++ t ++ "]"
          else if b.isNoneClass then "typing.Optional[" ++ s ++ "]"
          else "typing.Union[" ++ s ++ ", " ++ t ++ "]"
      | _, _ => "typing.Union[" ++ Value.commaed texts ++ "]"
  | .choice parts => " | ".intercalate (shownAllAt .betweenBars parts)
  | .generic origin parts => match shownAllAt .inBrackets parts with
    | [] => origin ++ "[()]"
    | texts => origin ++ "[" ++ Value.commaed texts ++ "]"
  | .tuple items => match shownAllAt .alone items with
    | [one] => "(" ++ one ++ ",)"
    | texts => "(" ++ Value.commaed texts ++ ")"
  | .list items => "[" ++ Value.commaed (shownAllAt .alone items) ++ "]"

/-- How annotations are shown in a place. -/
def shownAllAt (place : Place) : List Annotation → List String
  | [] => []
  | a :: as => shownAt place a :: shownAllAt place as

end

/-- How an annotation is shown by itself. -/
def shown (a : Annotation) : String := shownAt .alone a

end Annotation

end Assay.Plugin
