import Assay.Failure
import Assay.Source.Expr

/-!
# Parameters

What the parameters of a function get in a call with arguments that have no names. A call binds if no
argument is left over and no parameter lacks one; otherwise it fails before the function does
anything.
-/

namespace Assay.Plugin

open Source

/-- A parameter of a function. -/
structure Parameter where
  name : String
  role : ParameterRole := .positional
  isOptional : Bool := false
  deriving DecidableEq, Repr, Inhabited

/-- Whether an argument without a name can go to a parameter. -/
def Parameter.isPositional (p : Parameter) : Bool :=
  p.role = .positionalOnly || p.role = .positional

/-- What a parameter gets: an argument, all that are left, what it has without any, or nothing
although it needs one. -/
inductive Supplied (α : Type) where
  | argument (a : α)
  | remaining (as : List α)
  | own
  | missing
  deriving DecidableEq, Repr

/-- Why a call does not bind: there are more arguments than it takes, or parameters lack one, which
may be those that only a name leads to. -/
inductive BindingFault where
  | surplus (fewest most given : Nat)
  | missing (isNamed : Bool) (names : List String)
  deriving DecidableEq, Repr

section

variable {α : Type}

/-- What a parameter gets of some arguments, and which of them are left. -/
def Parameter.take (p : Parameter) (as : List α) : Supplied α × List α :=
  match p.role, as with
  | .variadic, as => (.remaining as, [])
  | .variadicKeyword, as => (.own, as)
  | .positionalOnly, a :: rest | .positional, a :: rest => (.argument a, rest)
  | _, as => (if p.isOptional then .own else .missing, as)

/-- What parameters get of some arguments, from the front, and which arguments are left over. -/
def supply : List Parameter → List α → List (Parameter × Supplied α) × List α
  | [], as => ([], as)
  | p :: ps, as =>
      let (supplied, left) := p.take as
      let (bound, left) := supply ps left
      ((p, supplied) :: bound, left)

/-- The names of parameters that lack an argument, either of those that take one without a name or
of the others. -/
def lacking (isNamed : Bool) (bound : List (Parameter × Supplied α)) : List String :=
  bound.filterMap fun
    | (p, .missing) => if p.isPositional = isNamed then none else some p.name
    | _ => none

/-- Bind arguments without names to parameters. -/
def bindArguments (ps : List Parameter) (as : List α) :
    Except BindingFault (List (Parameter × Supplied α)) :=
  let (bound, left) := supply ps as
  let positional := ps.filter (·.isPositional)
  if !left.isEmpty then
    .error (.surplus (positional.filter fun p => !p.isOptional).length positional.length as.length)
  else match lacking false bound, lacking true bound with
    | [], [] => .ok bound
    | [], names => .error (.missing true names)
    | names, _ => .error (.missing false names)

end

/-! ## As a failure -/

/-- Names in quotes, with a word between the last two. -/
def listNames : List String → String
  | [] => ""
  | [a] => Text.quoted a
  | [a, b] => Text.quoted a ++ " and " ++ Text.quoted b
  | [a, b, c] => Text.quoted a ++ ", " ++ Text.quoted b ++ ", and " ++ Text.quoted c
  | a :: rest => Text.quoted a ++ ", " ++ listNames rest

/-- The failure of a call that does not bind. An instance that is called goes in front of the
arguments, and counts with them. -/
def BindingFault.failure (name : String) (isInstance : Bool) : BindingFault → Failure
  | .surplus fewest most given =>
      let received := if isInstance then 1 else 0
      let extent := if fewest = most then s!"{most + received}"
        else s!"from {fewest + received} to {most + received}"
      let plural := if fewest = most && most + received = 1 then "" else "s"
      let verb := if given + received = 1 then "was" else "were"
      .type s!"{name}() takes {extent} positional argument{plural} but {given + received} {verb} given"
  | .missing isNamed names =>
      let count := names.length
      let sort := if isNamed then "keyword-only" else "positional"
      let plural := if count = 1 then "" else "s"
      .type (s!"{name}() missing {count} required {sort} argument{plural}: " ++ listNames names)

end Assay.Plugin
