import Assay.Check.Use
import Assay.File.Path

/-!
# Entities and declarations

What a module declares: its functions, classes, variables and imports. A variable is declared by
each name in the targets of an assignment; names that lie deeper in a target come later.
-/

namespace Assay.Check

open Source

/-! ## Names in targets -/

/-- A name with the place where it stands. -/
structure PlacedName where
  name : String
  span : Span
  deriving DecidableEq, Repr

/-- Join lists of levels: what is equally deep comes together. -/
def mergeLevels {α : Type} : List (List α) → List (List α) → List (List α)
  | [], bs => bs
  | as, [] => as
  | a :: as, b :: bs => (a ++ b) :: mergeLevels as bs

mutual

/-- The names in an expression by their depth. The parameters of a lambda and each clause of a
comprehension are nodes of their own. -/
def nameLevels : Expr → List (List PlacedName)
  | .name span id _ => [[⟨id, span⟩]]
  | .literal .. => []
  | .member _ object _ _ => [] :: nameLevels object
  | .subscript _ object index _ => [] :: mergeLevels (nameLevels object) (nameLevels index)
  | .starred _ value _ => [] :: nameLevels value
  | .sequence _ _ items _ => [] :: nameLevelsAll items
  | .operation _ _ operands => [] :: nameLevelsAll operands
  | .walrus _ target value => [] :: mergeLevels (nameLevels target) (nameLevels value)
  | .lambda _ _ defaults keywordDefaults body =>
      [] :: mergeLevels
        ([] :: mergeLevels (nameLevelsAll keywordDefaults) (nameLevelsAll defaults))
        (nameLevels body)
  | .comprehension _ _ results _ target iterable conditions further =>
      [] :: mergeLevels (nameLevelsAll results)
        (mergeLevels
          ([] :: mergeLevels (nameLevels target)
            (mergeLevels (nameLevels iterable) (nameLevelsAll conditions)))
          (nameLevelsClauses further))

/-- The names in expressions by their depth. -/
def nameLevelsAll : List Expr → List (List PlacedName)
  | [] => []
  | e :: es => mergeLevels (nameLevels e) (nameLevelsAll es)

/-- The names in clauses by their depth. -/
def nameLevelsClauses : List Clause → List (List PlacedName)
  | [] => []
  | .mk _ target iterable conditions :: rest =>
      mergeLevels
        ([] :: mergeLevels (nameLevels target)
          (mergeLevels (nameLevels iterable) (nameLevelsAll conditions)))
        (nameLevelsClauses rest)

end

/-- The names in targets, target by target, the shallow ones of each first. -/
def assignedNames (targets : List Expr) : List PlacedName :=
  targets.flatMap fun e => (nameLevels e).flatten

/-! ## Entities -/

/-- The kinds of entities. -/
inductive EntityKind where
  | function
  | classDef
  | variable
  | imported
  deriving DecidableEq, Repr, Inhabited

/-- The word for a kind. -/
def EntityKind.word : EntityKind → String
  | .function => "function"
  | .classDef => "class"
  | .variable => "variable"
  | .imported => "import"

/-- A name that is visible at the top of a module. -/
structure Entity where
  name : String
  fullName : String
  kind : EntityKind
  range : Range
  isPublic : Bool
  origin : Option String := none
  deriving DecidableEq, Repr, Inhabited

/-- The names that the first literal `__all__` of a module lists. -/
def declaredAll : List Stmt → Option (List String)
  | [] => none
  | .assign _ targets (.sequence _ _ items _) :: rest =>
      if targets.any fun | .name _ id _ => id == "__all__" | _ => false then
        some (items.filterMap fun | .literal _ (.text s) => some s | _ => none)
      else declaredAll rest
  | _ :: rest => declaredAll rest

/-- Whether a name is public: listed, if there is a list, or without a low line at the front. -/
def isPublicName (exported : Option (List String)) (name : String) : Bool :=
  match exported with
  | some names => names.contains name
  | none => !name.startsWith "_"

/-- The entity of a name. -/
def entityOf (file : String) (exported : Option (List String)) (kind : EntityKind) (name : String)
    (span : Span) (origin : Option String) : Entity :=
  { name, fullName := (Path.ofString file).stem ++ "." ++ name, kind, range := rangeOf file span,
    isPublic := isPublicName exported name, origin }

/-- The entities that a statement at the top of a module declares. -/
def entitiesOfStmt (file : String) (exported : Option (List String)) : Stmt → List Entity
  | .function span _ name .. => [entityOf file exported .function name span none]
  | .classDef span name .. => [entityOf file exported .classDef name span none]
  | .assign _ targets _ =>
      (assignedNames targets).map fun n => entityOf file exported .variable n.name n.span none
  | .annotate _ target _ _ _ =>
      (assignedNames [target]).map fun n => entityOf file exported .variable n.name n.span none
  | .importModules _ names =>
      names.map fun a => entityOf file exported .imported a.boundByImport a.span (some a.name)
  | .importFrom _ origin level names =>
      let source := String.ofList (List.replicate level '.') ++ origin.getD ""
      (names.filter fun a => !a.isStar).map fun a =>
        entityOf file exported .imported a.boundByFrom a.span (some source)
  | _ => []

/-- The entities of a module. -/
def entitiesOf (file : String) (m : Module) : List Entity :=
  m.body.flatMap (entitiesOfStmt file (declaredAll m.body))

/-! ## Declarations -/

/-- A function, a class or a variable with the declarations inside it. -/
inductive Declaration where
  | mk (name : String) (kind : EntityKind) (range : Range) (children : List Declaration)

namespace Declaration

/-- The name that is declared. -/
def name : Declaration → String
  | mk n .. => n

/-- What kind of thing is declared. -/
def kind : Declaration → EntityKind
  | mk _ k .. => k

/-- Where the declaration stands. -/
def range : Declaration → Range
  | mk _ _ r _ => r

/-- The declarations directly inside. -/
def children : Declaration → List Declaration
  | mk _ _ _ c => c

mutual

/-- A declaration followed by those inside it. -/
def walk : Declaration → List Declaration
  | mk name kind range children => mk name kind range children :: walkAll children

/-- Declarations, each followed by those inside it. -/
def walkAll : List Declaration → List Declaration
  | [] => []
  | d :: ds => walk d ++ walkAll ds

end

end Declaration

mutual

/-- The declarations that a statement makes; variables of functions are no declarations. -/
def declarationsOfStmt (file : String) (inFunction : Bool) : Stmt → List Declaration
  | .function span _ name _ _ _ body =>
      [.mk name .function (rangeOf file span) (declarationsOf file true body)]
  | .classDef span name _ _ _ body =>
      [.mk name .classDef (rangeOf file span) (declarationsOf file false body)]
  | .assign _ targets _ =>
      if inFunction then []
      else (assignedNames targets).map fun n => .mk n.name .variable (rangeOf file n.span) []
  | .annotate _ target _ _ _ =>
      if inFunction then []
      else (assignedNames [target]).map fun n => .mk n.name .variable (rangeOf file n.span) []
  | _ => []

/-- The declarations of a body. -/
def declarationsOf (file : String) (inFunction : Bool) : List Stmt → List Declaration
  | [] => []
  | s :: rest => declarationsOfStmt file inFunction s ++ declarationsOf file inFunction rest

end

/-- The declarations of a file. -/
structure DeclarationTree where
  file : String
  declarations : List Declaration

/-- All declarations of a file, each followed by those inside it. -/
def DeclarationTree.walk (t : DeclarationTree) : List Declaration :=
  Declaration.walkAll t.declarations

end Assay.Check
