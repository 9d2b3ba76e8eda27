import Assay.Source.Parser.Basic

/-!
# The recursive rules

The rules of the grammar refer back to one another. `Rules` holds those that others refer back to;
all other rules are functions of it.
-/

namespace Assay.Source

/-- The rules that others refer back to. -/
structure Rules where
  expression : Parser Expr
  namedExpression : Parser Expr
  disjunction : Parser Expr
  bitwiseOr : Parser Expr
  inversion : Parser Expr
  factor : Parser Expr
  starTarget : Parser Expr
  starTargets : Parser Expr
  starAtomTarget : Parser Expr
  singleTarget : Parser Expr
  deleteTarget : Parser Expr
  pattern : Parser Pattern
  block : Parser (List Stmt)
  otherwise : Parser (List Stmt)

/-- Rules that give nothing: the end of the recursion. -/
def Rules.nothing : Rules where
  expression := .fail
  namedExpression := .fail
  disjunction := .fail
  bitwiseOr := .fail
  inversion := .fail
  factor := .fail
  starTarget := .fail
  starTargets := .fail
  starAtomTarget := .fail
  singleTarget := .fail
  deleteTarget := .fail
  pattern := .fail
  block := .fail
  otherwise := .fail

/-- What a target is for. -/
inductive TargetUse where
  | assignment
  | loop
  | deletion
  deriving DecidableEq

mutual

/-- The first part of an expression that cannot be a target of the given use. -/
def badTarget? (use : TargetUse) : Expr → Option Expr
  | .sequence _ _ items _ => badTargetAmong? use items
  | .starred s value access =>
      if use = .deletion then some (.starred s value access) else badTarget? use value
  | .operation s (.comparison membershipFirst) (left :: rest) =>
      if use = .loop then if membershipFirst then badTarget? use left else none
      else some (.operation s (.comparison membershipFirst) (left :: rest))
  | .name .. | .subscript .. | .member .. => none
  | e => some e

/-- The first part of several expressions that cannot be a target. -/
def badTargetAmong? (use : TargetUse) : List Expr → Option Expr
  | [] => none
  | e :: es => (badTarget? use e).or (badTargetAmong? use es)

end

namespace Parser

/-- Refuse an expression that cannot be a target. -/
def refuseTarget (use : TargetUse) (e : Expr) : Parser Unit :=
  match badTarget? use e with
  | none => return ()
  | some bad =>
      let what := bad.description
      refuseSpan (if use = .deletion then s!"cannot delete {what}" else s!"cannot assign to {what}")
        bad.span

end Parser

end Assay.Source
