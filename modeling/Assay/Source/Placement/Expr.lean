import Assay.Source.Placement.Basic

/-!
# Where expressions may stand

What suspends a function (`yield` and `await`), stars, and the names of keyword arguments. Parts are
looked at in the order in which they are evaluated, but the inside of a comprehension goes before the
iterable of its first clause.
-/

namespace Assay.Source

/-- The two ways in which a function can be suspended. -/
inductive Suspension where
  | yielding
  | awaiting
  deriving DecidableEq, Repr

namespace Expr

/-- Whether an operator suspends the function around it. -/
def suspendsAs (how : Suspension) : Operator → Bool
  | .yield | .yieldFrom => how = .yielding
  | .await => how = .awaiting
  | _ => false

mutual

/-- Whether an expression suspends the function that it belongs to. Generators are functions of
their own; what the other comprehensions await, the function around them awaits. -/
def suspends (how : Suspension) : Expr → Bool
  | name .. | literal .. => false
  | member _ object _ _ => suspends how object
  | subscript _ object index _ => suspends how object || suspends how index
  | starred _ value _ => suspends how value
  | sequence _ _ items _ => suspendAny how items
  | operation _ operator operands => suspendsAs how operator || suspendAny how operands
  | walrus _ target value => suspends how target || suspends how value
  | lambda _ _ defaults keywordDefaults _ =>
      suspendAny how defaults || suspendAny how keywordDefaults
  | comprehension _ kind results isAsync target iterable conditions further =>
      suspends how iterable ||
        (kind ≠ .generator &&
          ((isAsync && how = .awaiting) || suspendAny how results || suspends how target ||
            suspendAny how conditions || clausesSuspend how further))

/-- Whether one of some expressions suspends the function that they belong to. -/
def suspendAny (how : Suspension) : List Expr → Bool
  | [] => false
  | e :: es => suspends how e || suspendAny how es

/-- Whether one of some clauses suspends the function that they belong to. -/
def clausesSuspend (how : Suspension) : List Clause → Bool
  | [] => false
  | .mk isAsync target iterable conditions :: rest =>
      (isAsync && how = .awaiting) || suspends how target || suspends how iterable ||
        suspendAny how conditions || clausesSuspend how rest

end

/-- The name and the span of a keyword argument. -/
def keyword? : Expr → Option (String × Span)
  | operation span (.keywordArgument (some word)) _ => some (word, span)
  | _ => none

/-- Whether an expression is behind a star. -/
def isStarred : Expr → Bool
  | starred .. => true
  | _ => false

end Expr

namespace Site

/-- Refuse a suspension where there is no function, or none of the right kind. -/
def checkSuspension (site : Site) (operator : Operator) (span : Span) : Placed Unit :=
  match operator with
  | .yield => if site.inFunction then .ok () else .error ⟨.outsideFunction "yield", span⟩
  | .yieldFrom =>
      if !site.inFunction then .error ⟨.outsideFunction "yield", span⟩
      else if site.kind = .asyncFunction then .error ⟨.delegationInAsync, span⟩
      else .ok ()
  | .await =>
      if !site.inFunction then .error ⟨.outsideFunction "await", span⟩
      else if site.kind = .asyncFunction || site.kind = .comprehension then .ok ()
      else .error ⟨.awaitOutsideAsync, span⟩
  | _ => .ok ()

/-- Targets of one assignment hold at most one star, and not too many of them stand before it. -/
def checkStars (items : List Expr) (span : Span) : Placed Unit :=
  let before := items.takeWhile fun e => !e.isStarred
  if before.length = items.length then .ok ()
  else if 256 ≤ before.length then .error ⟨.tooManyBeforeStar, span⟩
  else if (items.drop (before.length + 1)).any (·.isStarred) then .error ⟨.severalStarred, span⟩
  else .ok ()

/-- Whether the items of an operation may be starred. -/
def takesStars : Operator → Bool
  | .call | .set => true
  | _ => false

/-- The first fault among outcomes. -/
def firstFault : List (Placed Unit) → Placed Unit
  | [] => .ok ()
  | outcome :: rest => do
      outcome
      firstFault rest

/-- The outcomes of keys and of values in the order in which they are evaluated, if each value has a
key. -/
def inPairs (outcomes : List (Placed Unit)) : List (Placed Unit) :=
  let half := outcomes.length / 2
  if outcomes.length % 2 = 0 then
    ((outcomes.take half).zip (outcomes.drop half)).flatMap fun pair => [pair.1, pair.2]
  else outcomes

mutual

/-- Look at an expression; `starred` tells whether it may be behind a star. -/
def expr (site : Site) (starred : Bool) : Expr → Placed Unit
  | .name span id access => checkName access id span
  | .literal .. => .ok ()
  | .member span object field access => do
      expr site false object
      if access = .store then checkName access field span
  | .subscript _ object index _ => do
      expr site false object
      expr site false index
  | .starred span value access =>
      if starred then expr site false value
      else .error ⟨if access = .store then .starredTarget else .starredValue, span⟩
  | .sequence span _ items access => do
      if access = .store then checkStars items span
      firstFault (outcomes site (access ≠ .delete) items)
  | .operation span operator operands => do
      site.checkSuspension operator span
      if operator = .call then
        checkNames .repeatedKeyword (fun _ => span) (operands.filterMap (·.keyword?))
      let outcomes := outcomes site (takesStars operator) operands
      firstFault (if operator = .mapping then inPairs outcomes else outcomes)
  | .walrus _ target value => do
      expr site false value
      expr site false target
  | .lambda span parameters defaults keywordDefaults body => do
      parameters.forM fun p => checkName .store p.name span
      firstFault (outcomes site false defaults)
      firstFault (outcomes site false keywordDefaults)
      expr (site.inside .function) false body
  | .comprehension span kind results isAsync target iterable conditions further => do
      let isCoroutine := isAsync || Expr.suspendAny .awaiting results ||
        Expr.suspends .awaiting target || Expr.suspendAny .awaiting conditions ||
        Expr.clausesSuspend .awaiting further
      if isCoroutine && kind ≠ .generator && site.kind ≠ .asyncFunction &&
          site.kind ≠ .comprehension then
        throw ⟨.asyncComprehension, span⟩
      let within := site.inside .comprehension
      expr within false target
      firstFault (outcomes within false conditions)
      clauses within further
      firstFault (outcomes within false results)
      expr site false iterable

/-- Look at each of some expressions. -/
def outcomes (site : Site) (starred : Bool) : List Expr → List (Placed Unit)
  | [] => []
  | e :: es => expr site starred e :: outcomes site starred es

/-- Look at the further clauses of a comprehension. -/
def clauses (site : Site) : List Clause → Placed Unit
  | [] => .ok ()
  | .mk _ target iterable conditions :: rest => do
      expr site false iterable
      expr site false target
      firstFault (outcomes site false conditions)
      clauses site rest

end

/-- Look at expressions in order. -/
def exprs (site : Site) (starred : Bool) (es : List Expr) : Placed Unit :=
  firstFault (site.outcomes starred es)

end Site

end Assay.Source
