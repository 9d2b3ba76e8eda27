import Assay.Source.Expr
import Assay.Text.Utf8

/-!
# Symbols and scopes

A scope knows, for each name that occurs in it, the roles in which the name occurs and what it
refers to. The scopes of a module form a tree.
-/

namespace Assay.Source

/-- A role in which a name occurs in a scope. -/
inductive SymbolRole where
  | globalDeclared
  | nonlocalDeclared
  | assigned
  | parameter
  | imported
  | hinted
  | used
  | iterated
  deriving DecidableEq, Repr

/-- What a name in a scope refers to. -/
inductive Binding where
  | unresolved
  | local
  | cell
  | free
  | declaredGlobal
  | impliedGlobal
  deriving DecidableEq, Repr

/-- A name in a scope. -/
structure Symbol where
  name : String
  roles : List SymbolRole
  binding : Binding := .unresolved
  deriving DecidableEq, Repr, Inhabited

namespace Symbol

/-- Whether the name occurs in a role. -/
def has (s : Symbol) (role : SymbolRole) : Bool := s.roles.contains role

/-- Add a role. -/
def add (s : Symbol) (role : SymbolRole) : Symbol :=
  if s.has role then s else { s with roles := s.roles ++ [role] }

/-- Whether the scope itself binds the name. -/
def isBound (s : Symbol) : Bool := s.has .assigned || s.has .parameter || s.has .imported

end Symbol

/-- What kind of construct a scope belongs to. -/
inductive ScopeKind where
  | module
  | function
  | classBody
  deriving DecidableEq, Repr

/-- A scope without its children. Scopes are numbered in the order in which they are entered.
Directives are the names of `global` and `nonlocal` declarations with their lines. -/
structure ScopeFrame where
  id : Nat
  kind : ScopeKind
  name : String
  line : Nat
  symbols : List Symbol := []
  directives : List (String × Nat) := []
  deriving Repr

/-- A scope with the scopes inside it. -/
inductive Scope where
  | mk (frame : ScopeFrame) (children : List Scope)

namespace Scope

/-- The scope itself. -/
def frame : Scope → ScopeFrame
  | mk frame _ => frame

/-- The scopes directly inside. -/
def children : Scope → List Scope
  | mk _ children => children

/-- The symbol of a name. -/
def lookup? (s : Scope) (name : String) : Option Symbol :=
  s.frame.symbols.find? fun symbol => symbol.name == name

end Scope

/-- Why the names of a module make no sense. -/
inductive ScopeFault where
  | duplicateParameter (name : String)
  | parameterAnd (declaration name : String)
  | usedBefore (declaration name : String)
  | assignedBefore (declaration name : String)
  | hintedAnd (declaration name : String)
  | nonlocalAndGlobal (name : String)
  | nonlocalAtTop
  | unboundNonlocal (name : String)
  | starImport
  | rebindsIteration (name : String)
  | iterationRebinds (name : String)
  | walrusInClassComprehension
  | walrusInIterable
  | inHint (what : String)
  | yieldInside (what : String)
  | unknownFeature (name : String)
  | braces
  | lateFuture
  deriving DecidableEq, Repr

namespace ScopeFault

/-- The message of a fault. -/
def message : ScopeFault → String
  | duplicateParameter name => s!"duplicate argument '{name}' in function definition"
  | parameterAnd declaration name => s!"name '{name}' is parameter and {declaration}"
  | usedBefore declaration name => s!"name '{name}' is used prior to {declaration} declaration"
  | assignedBefore declaration name =>
      s!"name '{name}' is assigned to before {declaration} declaration"
  | hintedAnd declaration name => s!"annotated name '{name}' can't be {declaration}"
  | nonlocalAndGlobal name => s!"name '{name}' is nonlocal and global"
  | nonlocalAtTop => "nonlocal declaration not allowed at module level"
  | unboundNonlocal name => s!"no binding for nonlocal '{name}' found"
  | starImport => "import * only allowed at module level"
  | rebindsIteration name =>
      s!"assignment expression cannot rebind comprehension iteration variable '{name}'"
  | iterationRebinds name =>
      s!"comprehension inner loop cannot rebind assignment expression target '{name}'"
  | walrusInClassComprehension =>
      "assignment expression within a comprehension cannot be used in a class body"
  | walrusInIterable =>
      "assignment expression cannot be used in a comprehension iterable expression"
  | inHint what => s!"'{what}' can not be used within an annotation"
  | yieldInside what => s!"'yield' inside {what}"
  | unknownFeature name =>
      let name := Text.Utf8.cut 100 name
      s!"future feature {name} is not defined"
  | braces => "not a chance"
  | lateFuture => "from __future__ imports must occur at the beginning of the file"

end ScopeFault

/-- A fault with the line it is found in. -/
structure LocatedFault where
  fault : ScopeFault
  line : Nat
  deriving DecidableEq, Repr

end Assay.Source
