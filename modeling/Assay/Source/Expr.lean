import Assay.Source.Span

/-!
# Expressions

The tree of an expression keeps what the later phases look at: where names stand and how they are
used, which constructs open a scope of their own, and the order of the parts. All operators whose
parts are simply visited from left to right share the constructor `operation`.
-/

namespace Assay.Source

/-- How an expression is used where it stands: its value is read, it is assigned to, or it is
deleted. -/
inductive Access where
  | load
  | store
  | delete
  deriving DecidableEq, Repr, Inhabited

/-- Constants. Texts and bytes are kept by their value, numbers as they are written. -/
inductive Literal where
  | text (value : String)
  | bytes (value : List UInt8)
  | number (text : String)
  | none
  | true
  | false
  | ellipsis
  deriving DecidableEq, Repr, Inhabited

/-- The two sequences that can also be targets. -/
inductive SequenceKind where
  | tuple
  | list
  deriving DecidableEq, Repr, Inhabited

/-- Constructs without names of their own. Their operands stand in the order in which they are
visited; a keyword argument is an operation of its own with one operand, and has no name if it is a
mapping that is unpacked. -/
inductive Operator where
  | boolean
  | binary
  | unary
  | comparison (membershipFirst : Bool)
  | conditional
  | call
  | keywordArgument (name : Option String)
  | set
  | mapping
  | slice
  | joinedText
  | formatted
  | yield
  | yieldFrom
  | await
  deriving DecidableEq, Repr, Inhabited

/-- The comprehensions, by what they build. -/
inductive ComprehensionKind where
  | list
  | set
  | mapping
  | generator
  deriving DecidableEq, Repr, Inhabited

/-- Where a parameter stands in a signature. -/
inductive ParameterRole where
  | positionalOnly
  | positional
  | variadic
  | keywordOnly
  | variadicKeyword
  deriving DecidableEq, Repr, Inhabited

/-- A parameter without its hint. -/
structure ParameterName where
  name : String
  span : Span
  role : ParameterRole
  deriving DecidableEq, Repr, Inhabited

mutual

/-- An expression. A comprehension has its results (a key and a value for mappings, one element
otherwise), its first clause, and its further clauses. -/
inductive Expr where
  | name (span : Span) (id : String) (access : Access)
  | literal (span : Span) (value : Literal)
  | member (span : Span) (object : Expr) (field : String) (access : Access)
  | subscript (span : Span) (object index : Expr) (access : Access)
  | starred (span : Span) (value : Expr) (access : Access)
  | sequence (span : Span) (kind : SequenceKind) (items : List Expr) (access : Access)
  | operation (span : Span) (operator : Operator) (operands : List Expr)
  | walrus (span : Span) (target value : Expr)
  | lambda (span : Span) (parameters : List ParameterName) (defaults keywordDefaults : List Expr)
      (body : Expr)
  | comprehension (span : Span) (kind : ComprehensionKind) (results : List Expr)
      (isAsync : Bool) (target iterable : Expr) (conditions : List Expr) (further : List Clause)

/-- A further clause of a comprehension. -/
inductive Clause where
  | mk (isAsync : Bool) (target iterable : Expr) (conditions : List Expr)

end

instance : Inhabited Expr := ⟨.literal default .none⟩

instance : Inhabited Clause := ⟨.mk false default default []⟩

namespace Expr

/-- Where an expression stands. -/
def span : Expr → Span
  | name s .. | literal s .. | member s .. | subscript s .. | starred s .. | sequence s ..
  | operation s .. | walrus s .. | lambda s .. | comprehension s .. => s

mutual

/-- Use an expression as a target. What it reads to find the place, such as the object of an
attribute, is still read. -/
def withAccess (access : Access) : Expr → Expr
  | name s id _ => name s id access
  | member s object field _ => member s object field access
  | subscript s object index _ => subscript s object index access
  | starred s value _ => starred s (withAccess access value) access
  | sequence s kind items _ => sequence s kind (withAccessAll access items) access
  | e => e

/-- Use several expressions as targets. -/
def withAccessAll (access : Access) : List Expr → List Expr
  | [] => []
  | e :: es => withAccess access e :: withAccessAll access es

end

/-- What an expression is called in messages. -/
def description : Expr → String
  | name .. => "name"
  | literal _ value => match value with
    | .none => "None"
    | .true => "True"
    | .false => "False"
    | .ellipsis => "ellipsis"
    | _ => "literal"
  | member .. => "attribute"
  | subscript .. => "subscript"
  | starred .. => "starred"
  | sequence _ .tuple .. => "tuple"
  | sequence _ .list .. => "list"
  | operation _ operator _ => match operator with
    | .boolean | .binary | .unary => "expression"
    | .comparison _ => "comparison"
    | .conditional => "conditional expression"
    | .call => "function call"
    | .set => "set display"
    | .mapping => "dict literal"
    | .joinedText | .formatted => "f-string expression"
    | .yield | .yieldFrom => "yield expression"
    | .await => "await expression"
    | .slice | .keywordArgument _ => "expression"
  | walrus .. => "named expression"
  | lambda .. => "lambda"
  | comprehension _ .list .. => "list comprehension"
  | comprehension _ .set .. => "set comprehension"
  | comprehension _ .mapping .. => "dict comprehension"
  | comprehension _ .generator .. => "generator expression"

end Expr

end Assay.Source
