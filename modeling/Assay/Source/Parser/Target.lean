import Assay.Source.Parser.Expression

/-!
# The grammar of targets

What can be assigned to or deleted: names, members, subscripts, and groups of targets.
-/

namespace Assay.Source

namespace Rules

open Assay.Source.Parser

variable (r : Rules)

/-- What can continue a primary. -/
def continues : Parser Token := opOf ["(", "[", "."]

/-- The trailers of a target behind its atom: the last of them names a member or a subscript and
nothing continues it. -/
def targetTrailers (access : Access) (start : Span) : Nat → Expr → Parser Expr
  | 0, _ => fail
  | bound + 1, e => do
      let t ← r.trailer
      let s ← spanFrom start
      if ← follows continues then targetTrailers access start bound (t.apply e s)
      else match t with
        | .call _ => fail
        | _ => return (t.apply e s).withAccess access

/-- A member or a subscript as a target. -/
def memberTarget (access : Access) : Parser Expr := do
  let start ← here
  let e ← r.atom
  ahead continues
  fun i s => r.targetTrailers access start (i.stream.tokens.size + 1) e i s

/-- A name as a target. -/
def nameTarget (access : Access) : Parser Expr := do
  let t ← ident
  return .name t.span (identifier t) access

/-- Targets between commas, the last comma optional. -/
def targetList (target : Parser Expr) : Parser (List Expr) := do
  let es ← separated target (op ",")
  let _ ← optional (op ",")
  return es

/-- A group of targets in brackets. -/
def bracketed (kind : SequenceKind) (access : Access) (opening closing : String)
    (items : Parser (List Expr)) : Parser Expr := spanned do
  let _ ← op opening
  let es ← optional items
  let _ ← op closing
  return fun s => .sequence s kind (es.getD []) access

/-- The targets of a tuple in brackets: at least one comma. -/
def tupleTargets : Parser (List Expr) :=
  (do
    let first ← r.starTarget
    let more ← many1 (do
      let _ ← op ","
      r.starTarget)
    let _ ← optional (op ",")
    return first :: more) <|>
  (do
    let first ← r.starTarget
    let _ ← op ","
    return [first])

/-- A target in brackets, or a name. -/
def starAtom : Parser Expr :=
  nameTarget .store <|>
  (do
    let _ ← op "("
    let e ← r.starAtomTarget
    let _ ← op ")"
    return e) <|>
  bracketed .tuple .store "(" ")" r.tupleTargets <|>
  bracketed .list .store "[" "]" (targetList r.starTarget)

/-- A target that is not starred. -/
def starAtomTargetRule : Parser Expr :=
  rememberExpr .starAtomTarget (r.memberTarget .store <|> r.starAtom)

/-- A target that may be starred. -/
def starTargetRule : Parser Expr :=
  rememberExpr .starTarget (
    (spanned do
      let _ ← op "*"
      notAhead (op "*")
      let e ← r.starTarget
      return fun s => .starred s e .store) <|>
    r.starAtomTarget)

/-- Targets; several make a tuple. -/
def starTargetsRule : Parser Expr := do
  let start ← here
  let first ← r.starTarget
  let more ← many (do
    let _ ← op ","
    r.starTarget)
  let trailing ← optional (op ",")
  if more.isEmpty && trailing.isNone then return first
  else return .sequence (← spanFrom start) .tuple (first :: more) .store

/-- One name, member or subscript, in round brackets or not. -/
def singleTargetRule : Parser Expr :=
  r.memberTarget .store <|> nameTarget .store <|>
  (do
    let _ ← op "("
    let e ← r.singleTarget
    let _ ← op ")"
    return e)

/-- What can be deleted. -/
def deleteTargetRule : Parser Expr :=
  rememberExpr .deleteTarget (
    r.memberTarget .delete <|> nameTarget .delete <|>
    (do
      let _ ← op "("
      let e ← r.deleteTarget
      let _ ← op ")"
      return e) <|>
    bracketed .tuple .delete "(" ")" (targetList r.deleteTarget) <|>
    bracketed .list .delete "[" "]" (targetList r.deleteTarget))

/-- The targets of a deletion. -/
def deleteTargets : Parser (List Expr) := targetList r.deleteTarget

end Rules

end Assay.Source
