import Assay.Source.Expr

/-!
# Statements, patterns and modules

Statements that begin with a keyword and only evaluate expressions share one constructor with
augmented assignments, and so do those that steer through blocks (conditions, loops and `with`): the
phases that follow mostly treat them alike.
-/

namespace Assay.Source

/-- A parameter of a function, with its hint. -/
structure Parameter extends ParameterName where
  hint : Option Expr := none
  deriving Inhabited

/-- The signature of a function. Parameters stand in the order of the header. -/
structure Signature where
  parameters : List Parameter := []
  defaults : List Expr := []
  keywordDefaults : List Expr := []
  deriving Inhabited

/-- One name of an import statement. -/
structure Alias where
  name : String
  asName : Option String
  span : Span
  deriving DecidableEq, Repr, Inhabited

namespace Alias

/-- The name that `import` binds: the alias, or the first part of a dotted name. -/
def boundByImport (a : Alias) : String :=
  match a.asName with
  | some name => name
  | none => String.ofList (a.name.toList.takeWhile (· ≠ '.'))

/-- The name that `from … import` binds. -/
def boundByFrom (a : Alias) : String := a.asName.getD a.name

/-- Whether the alias imports every name of a module. -/
def isStar (a : Alias) : Bool := a.name == "*"

end Alias

/-- What a pattern asks for. A class pattern has the attributes of its last parts, and a wildcard is
a capture without a name. -/
inductive PatternKind where
  | value
  | singleton
  | capture
  | sequence
  | rest
  | mapping
  | ofClass (attributes : List String)
  | alternatives
  | named
  deriving DecidableEq, Repr, Inhabited

/-- A pattern: the expressions it compares with, its parts, and the name it binds. -/
inductive Pattern where
  | mk (span : Span) (kind : PatternKind) (expressions : List Expr) (parts : List Pattern)
      (binds : Option String)

instance : Inhabited Pattern := ⟨.mk default .capture [] [] none⟩

/-- Where a pattern stands. -/
def Pattern.span : Pattern → Span
  | mk s .. => s

/-- What a simple statement does with its expressions. -/
inductive SimpleKind where
  | augment
  | give
  | raise
  | skip
  | delete
  | demand
  | stop
  | next
  deriving DecidableEq, Repr, Inhabited

/-- How a statement steers through its blocks. The header of `contexts` holds each context, with the
target behind it if there is one. -/
inductive FlowKind where
  | condition
  | whileLoop
  | forLoop (isAsync : Bool)
  | contexts (isAsync : Bool)
  deriving DecidableEq, Repr, Inhabited

mutual

/-- A statement. -/
inductive Stmt where
  | function (span : Span) (isAsync : Bool) (name : String) (signature : Signature)
      (returns : Option Expr) (decorators : List Expr) (body : List Stmt)
  | classDef (span : Span) (name : String) (bases keywords decorators : List Expr)
      (body : List Stmt)
  | assign (span : Span) (targets : List Expr) (value : Expr)
  | annotate (span : Span) (target hint : Expr) (value : Option Expr) (bare : Bool)
  | expression (span : Span) (value : Expr)
  | evaluate (span : Span) (kind : SimpleKind) (expressions : List Expr)
  | flow (span : Span) (kind : FlowKind) (header : List Expr) (body otherwise : List Stmt)
  | guarded (span : Span) (ofGroups : Bool) (body : List Stmt) (handlers : List Handler)
      (otherwise final : List Stmt)
  | branch (span : Span) (subject : Expr) (cases : List Case)
  | importModules (span : Span) (names : List Alias)
  | importFrom (span : Span) (origin : Option String) (level : Nat) (names : List Alias)
  | globals (span : Span) (names : List String)
  | nonlocals (span : Span) (names : List String)

/-- A handler of a guarded block. All handlers of a block are for groups, or none. -/
inductive Handler where
  | mk (span : Span) (type? : Option Expr) (name : Option String) (body : List Stmt)

/-- One case of a branch on patterns. -/
inductive Case where
  | mk (pattern : Pattern) (guard? : Option Expr) (body : List Stmt)

end

instance : Inhabited Stmt := ⟨.evaluate default .skip []⟩

instance : Inhabited Handler := ⟨.mk default none none []⟩

instance : Inhabited Case := ⟨.mk default none []⟩

namespace Stmt

/-- Where a statement stands. -/
def span : Stmt → Span
  | function s .. | classDef s .. | assign s .. | annotate s .. | expression s .. | evaluate s ..
  | flow s ..
  | guarded s .. | branch s .. | importModules s .. | importFrom s .. | globals s ..
  | nonlocals s .. => s

end Stmt

/-- A parsed module. -/
structure Module where
  body : List Stmt
  deriving Inhabited

end Assay.Source
