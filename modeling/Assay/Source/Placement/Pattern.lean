import Assay.Source.Constant
import Assay.Source.Placement.Expr
import Assay.Value.Text

/-!
# Where patterns may stand

A pattern that always fits makes sense only as the last one, or as a part of another. A pattern
binds a name once, and alternatives bind the same names.
-/

namespace Assay.Source

namespace Pattern

/-- Whether a pattern takes the rest of a sequence. -/
def isRest : Pattern → Bool
  | mk _ kind .. => kind = .rest

/-- Whether a pattern fits everything, or the rest, and binds nothing. -/
def isWildcard : Pattern → Bool
  | mk _ kind _ _ binds => (kind = .capture || kind = .rest) && binds.isNone

end Pattern

/-- The names that a pattern has bound so far, and the place of the part that was looked at last. -/
structure Captures where
  names : List String := []
  last : Span
  deriving Inhabited

namespace Captures

/-- Bind a name that is not bound yet. -/
def add (c : Captures) (name : Option String) : Placed Captures :=
  match name with
  | none => .ok c
  | some name => do
      checkName .store name c.last
      if c.names.contains name then throw ⟨.repeatedCapture name, c.last⟩
      return { c with names := c.names ++ [name] }

end Captures

namespace Site

/-- Whether an expression is one that a pattern can compare with: a constant, or a member. -/
def isComparable : Expr → Bool
  | .literal .. | .member .. => true
  | .operation _ .unary _ | .operation _ .binary _ => true
  | _ => false

/-- The keys of a mapping pattern are constants that differ, or members. -/
def checkKeys (site : Site) (span : Span) : List Value → List Expr → Placed Unit
  | _, [] => .ok ()
  | seen, key :: rest => do
      if !isComparable key then throw ⟨.keyNotConstant, span⟩
      let seen ← match key.constant? with
        | some value =>
            if seen.any fun other => value == other then throw ⟨.repeatedKey value.shown, span⟩
            else pure (value :: seen)
        | none => pure seen
      site.expr false key
      checkKeys site span seen rest

/-- The parts of a sequence pattern hold at most one that takes the rest. -/
def checkRests (parts : List Pattern) (span : Span) : Placed Unit :=
  let before := parts.takeWhile fun p => !p.isRest
  if before.length = parts.length then .ok ()
  else if (parts.drop (before.length + 1)).any (·.isRest) then
    .error ⟨.severalStarredPatterns, span⟩
  else if 256 ≤ before.length then .error ⟨.tooManyBeforeStarPattern, span⟩
  else .ok ()

/-- Whether wildcards among the parts of a sequence pattern are passed over: nothing has to be taken
out of the sequence for them. -/
def passesWildcards (parts : List Pattern) : Bool :=
  parts.any (fun p => p.isRest && p.isWildcard) || parts.all (·.isWildcard)

mutual

/-- Look at a pattern and add the names that it binds to those that are bound already. `open_` tells
whether it may fit everything. -/
def pattern (site : Site) (open_ : Bool) (bound : List String) : Pattern → Placed Captures
  | .mk span kind expressions parts binds => do
      let start : Captures := { names := bound, last := span }
      match kind with
      | .value =>
          if !expressions.all isComparable then throw ⟨.patternNotConstant, span⟩
          site.exprs false expressions
          return start
      | .singleton => return start
      | .capture =>
          if !open_ then
            throw ⟨match binds with
              | some name => .captureBeforeOthers name
              | none => .wildcardBeforeOthers, span⟩
          start.add binds
      | .rest => start.add binds
      | .sequence =>
          checkRests parts span
          patterns site (passesWildcards parts) start parts
      | .mapping =>
          checkKeys site span [] expressions
          (← patterns site false start parts).add binds
      | .ofClass attributes =>
          let spans := (parts.drop (parts.length - attributes.length)).map Pattern.span
          checkNames .repeatedAttribute id (attributes.zip spans)
          site.exprs false expressions
          patterns site true { start with last := spans.getLast?.getD span } parts
      | .alternatives =>
          let inner ← alternatives site open_ { last := span } none parts
          match inner.names.find? bound.contains with
          | some name => throw ⟨.repeatedCapture name, inner.last⟩
          | none => return { inner with names := bound ++ inner.names }
      | .named => (← onlyPart site open_ start parts).add binds

/-- Look at the parts of a pattern in order. -/
def patterns (site : Site) (passing : Bool) (c : Captures) : List Pattern → Placed Captures
  | [] => .ok c
  | p :: ps => do
      let c ← if passing && p.isWildcard then pure c else pattern site true c.names p
      patterns site passing c ps

/-- Look at the pattern that is given a name. -/
def onlyPart (site : Site) (open_ : Bool) (c : Captures) : List Pattern → Placed Captures
  | [] => .ok c
  | p :: _ => pattern site open_ c.names p

/-- Look at alternatives, which bind the names that the first of them binds. -/
def alternatives (site : Site) (open_ : Bool) (c : Captures) (first : Option (List String)) :
    List Pattern → Placed Captures
  | [] => .ok { c with names := first.getD [] }
  | p :: ps => do
      let c ← pattern site (open_ && ps.isEmpty) [] p
      let wanted := first.getD c.names
      if c.names.length ≠ wanted.length || !wanted.all c.names.contains then
        throw ⟨.alternativesDiffer, c.last⟩
      alternatives site open_ c (some wanted) ps

end

end Site

end Assay.Source
