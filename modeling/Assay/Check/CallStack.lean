import Assay.Check.File

/-!
# Call stacks

Going through a module takes calls inside of calls, as deep as the module is nested, and an interpreter
has room for a limited number of them. How many each part of a module takes is its own affair; a
call stack only says for which modules there is room.
-/

namespace Assay

namespace Source

/-! ## Depth -/

mutual

/-- How deeply an expression is nested. -/
def Expr.depth : Expr → Nat
  | .name .. | .literal .. => 1
  | .member _ object _ _ | .starred _ object _ => object.depth + 1
  | .subscript _ object index _ => max object.depth index.depth + 1
  | .sequence _ _ es _ | .operation _ _ es => Expr.depthOfAll es + 1
  | .walrus _ target value => max target.depth value.depth + 1
  | .lambda _ _ defaults keywordDefaults body =>
      max (max (Expr.depthOfAll defaults) (Expr.depthOfAll keywordDefaults)) body.depth + 1
  | .comprehension _ _ results _ target iterable conditions further =>
      max (max (max (Expr.depthOfAll results) (Expr.depthOfAll conditions))
        (max target.depth iterable.depth)) (Clause.depthOfAll further) + 1

/-- How deeply expressions are nested at most. -/
def Expr.depthOfAll : List Expr → Nat
  | [] => 0
  | e :: es => max e.depth (Expr.depthOfAll es)

/-- How deeply the further clauses of a comprehension are nested at most. -/
def Clause.depthOfAll : List Clause → Nat
  | [] => 0
  | .mk _ target iterable conditions :: rest =>
      max (max (max target.depth iterable.depth) (Expr.depthOfAll conditions))
        (Clause.depthOfAll rest)

end

mutual

/-- How deeply a pattern is nested. -/
def Pattern.depth : Pattern → Nat
  | .mk _ _ expressions parts _ =>
      max (Expr.depthOfAll expressions) (Pattern.depthOfAll parts) + 1

/-- How deeply patterns are nested at most. -/
def Pattern.depthOfAll : List Pattern → Nat
  | [] => 0
  | p :: ps => max p.depth (Pattern.depthOfAll ps)

end

/-- How deeply the expressions of a signature are nested at most. -/
def Signature.depth (s : Signature) : Nat :=
  max (Expr.depthOfAll (s.parameters.filterMap (·.hint)))
    (max (Expr.depthOfAll s.defaults) (Expr.depthOfAll s.keywordDefaults))

mutual

/-- How deeply a statement is nested. -/
def Stmt.depth : Stmt → Nat
  | .function _ _ _ signature returns decorators body =>
      max (max signature.depth (Expr.depthOfAll (returns.toList ++ decorators)))
        (Stmt.depthOfAll body) + 1
  | .classDef _ _ bases keywords decorators body =>
      max (Expr.depthOfAll (bases ++ keywords ++ decorators)) (Stmt.depthOfAll body) + 1
  | .assign _ targets value => Expr.depthOfAll (value :: targets) + 1
  | .annotate _ target hint value _ => Expr.depthOfAll (target :: hint :: value.toList) + 1
  | .expression _ value => value.depth + 1
  | .evaluate _ _ es => Expr.depthOfAll es + 1
  | .flow _ _ header body otherwise =>
      max (Expr.depthOfAll header) (max (Stmt.depthOfAll body) (Stmt.depthOfAll otherwise)) + 1
  | .guarded _ _ body handlers otherwise final =>
      max (max (Stmt.depthOfAll body) (Handler.depthOfAll handlers))
        (max (Stmt.depthOfAll otherwise) (Stmt.depthOfAll final)) + 1
  | .branch _ subject cases => max subject.depth (Case.depthOfAll cases) + 1
  | .importModules .. | .importFrom .. | .globals .. | .nonlocals .. => 1

/-- How deeply statements are nested at most. -/
def Stmt.depthOfAll : List Stmt → Nat
  | [] => 0
  | s :: rest => max s.depth (Stmt.depthOfAll rest)

/-- How deeply handlers are nested at most. -/
def Handler.depthOfAll : List Handler → Nat
  | [] => 0
  | .mk _ type? _ body :: rest =>
      max (max (Expr.depthOfAll type?.toList) (Stmt.depthOfAll body) + 1) (Handler.depthOfAll rest)

/-- How deeply cases are nested at most. -/
def Case.depthOfAll : List Case → Nat
  | [] => 0
  | .mk p guard? body :: rest =>
      max (max (max p.depth (Expr.depthOfAll guard?.toList)) (Stmt.depthOfAll body) + 1)
        (Case.depthOfAll rest)

end

/-- How deeply a module is nested. -/
def Module.depth (m : Module) : Nat := Stmt.depthOfAll m.body + 1

end Source

namespace Check

open Source

/-- The room that an interpreter has for calls: whether a module can be gone through while so many
calls are open. Fewer open calls never leave less room. -/
structure CallStack where
  hasRoom : Nat → Module → Bool
  antitone : ∀ {fewer calls : Nat} {m : Module}, fewer ≤ calls → hasRoom calls m = true →
    hasRoom fewer m = true

namespace CallStack

/-- How many calls each level of a module takes: one that finds out what is there, and one for it. -/
def callsPerLevel : Nat := 2

/-- The room of an interpreter with a limit for open calls. -/
def ofLimit (limit : Nat) : CallStack where
  hasRoom calls m := calls + callsPerLevel * m.depth ≤ limit
  antitone := fun {fewer calls m} hle hfits => by
    simp only [decide_eq_true_eq] at hfits ⊢
    omega

/-- The failure of calls that are nested too deeply. -/
def overflow : Failure := .of "RecursionError" "maximum recursion depth exceeded"

/-- Fail if a parsed file cannot be gone through while some calls are open. One without a tree, or
with names that make no sense, is not gone through. -/
def require (stack : CallStack) (calls : Nat) (p : ParseResults) : Except Failure Unit :=
  match p.tree with
  | some m =>
      if (Scope.ofModule m).isOk && !stack.hasRoom calls m then .error overflow else .ok ()
  | none => .ok ()

end CallStack

end Check

end Assay
