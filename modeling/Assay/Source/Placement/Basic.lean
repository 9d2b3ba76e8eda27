import Assay.Source.Stmt
import Assay.Text.Quoted

/-!
# Where constructs may stand

A module can follow the grammar and still hold a construct in a place where it has no meaning: a
`return` outside of functions, a `break` outside of loops, a target with two stars. A `Site` tells
what is around the construct that is looked at; this module says what a site allows.
-/

namespace Assay.Source

/-- Why a construct may not stand where it stands. -/
inductive PlacementFault where
  | outsideFunction (word : String)
  | awaitOutsideAsync
  | valueFromAsyncGenerator
  | stopOutsideLoop
  | nextOutsideLoop
  | leavesGroupHandler
  | delegationInAsync
  | asyncComprehension
  | asyncStatement (word : String)
  | starredTarget
  | starredValue
  | severalStarred
  | tooManyBeforeStar
  | nestedTooDeeply
  | bareHandlerNotLast
  | repeatedKeyword (name : String)
  | assignsDebug
  | deletesDebug
  | lateFuture
  | wildcardBeforeOthers
  | captureBeforeOthers (name : String)
  | alternativesDiffer
  | repeatedCapture (name : String)
  | severalStarredPatterns
  | tooManyBeforeStarPattern
  | repeatedAttribute (name : String)
  | repeatedKey (shown : String)
  | patternNotConstant
  | keyNotConstant
  deriving DecidableEq, Repr

namespace PlacementFault

/-- The message of a fault. -/
def message : PlacementFault → String
  | outsideFunction word => s!"'{word}' outside function"
  | awaitOutsideAsync => "'await' outside async function"
  | valueFromAsyncGenerator => "'return' with value in async generator"
  | stopOutsideLoop => "'break' outside loop"
  | nextOutsideLoop => "'continue' not properly in loop"
  | leavesGroupHandler => "'break', 'continue' and 'return' cannot appear in an except* block"
  | delegationInAsync => "'yield from' inside async function"
  | asyncComprehension => "asynchronous comprehension outside of an asynchronous function"
  | asyncStatement word => s!"'async {word}' outside async function"
  | starredTarget => "starred assignment target must be in a list or tuple"
  | starredValue => "can't use starred expression here"
  | severalStarred => "multiple starred expressions in assignment"
  | tooManyBeforeStar => "too many expressions in star-unpacking assignment"
  | nestedTooDeeply => "too many statically nested blocks"
  | bareHandlerNotLast => "default 'except:' must be last"
  | repeatedKeyword name => s!"keyword argument repeated: {name}"
  | assignsDebug => "cannot assign to __debug__"
  | deletesDebug => "cannot delete __debug__"
  | lateFuture => "from __future__ imports must occur at the beginning of the file"
  | wildcardBeforeOthers => "wildcard makes remaining patterns unreachable"
  | captureBeforeOthers name =>
      "name capture " ++ Text.quoted name ++ " makes remaining patterns unreachable"
  | alternativesDiffer => "alternative patterns bind different names"
  | repeatedCapture name => "multiple assignments to name " ++ Text.quoted name ++ " in pattern"
  | severalStarredPatterns => "multiple starred names in sequence pattern"
  | tooManyBeforeStarPattern => "too many expressions in star-unpacking sequence pattern"
  | repeatedAttribute name => s!"attribute name repeated in class pattern: {name}"
  | repeatedKey shown => s!"mapping pattern checks duplicate key ({shown})"
  | patternNotConstant => "patterns may only match literals and attribute lookups"
  | keyNotConstant => "mapping pattern keys may only match literals and attribute lookups"

end PlacementFault

/-- A construct that may not stand where it stands. Its place is lost if the construct is found
behind the blocks that are run before it takes effect. -/
structure Misplaced where
  fault : PlacementFault
  span : Option Span
  deriving Repr

/-- The outcome of looking at constructs. -/
abbrev Placed := Except Misplaced

/-- What the body around a construct belongs to. -/
inductive SiteKind where
  | module
  | classBody
  | function
  | asyncFunction
  | comprehension
  deriving DecidableEq, Repr

/-- A block around a construct: a loop, the handlers of groups, a block within a context, one with a
last block that runs however it is left, or any other. Of the last block it is known whether its
constructs stand where they may. -/
inductive Block where
  | loop
  | groupHandlers
  | context
  | final (outcome : Placed Unit)
  | other

/-- What is around a construct: the body it belongs to, the blocks of that body, innermost first,
whether the body is an asynchronous generator, whether hints are evaluated, and the line of the last
statement that asks for features. -/
structure Site where
  kind : SiteKind := .module
  blocks : List Block := []
  isAsyncGenerator : Bool := false
  hintsEvaluated : Bool := true
  featureLine : Option Nat := none

namespace Site

/-- The most blocks that can be around a construct. -/
def maxBlocks : Nat := 20

/-- Whether a site is in a function. -/
def inFunction (site : Site) : Bool := site.kind ≠ .module && site.kind ≠ .classBody

/-- The site in a block. -/
def within (site : Site) (block : Block) (span : Span) : Placed Site :=
  if maxBlocks ≤ site.blocks.length then .error ⟨.nestedTooDeeply, span⟩
  else .ok { site with blocks := block :: site.blocks }

/-- The site in the body of a function, a class or a comprehension. -/
def inside (site : Site) (kind : SiteKind) (isAsyncGenerator : Bool := false) : Site :=
  { site with kind, blocks := [], isAsyncGenerator }

/-- Leave blocks, up to a loop if one is wanted; the answer tells whether it is there. Handlers of
groups cannot be left. `place` is lost on the way through blocks that are run first. -/
def leave (wantsLoop : Bool) (place : Option Span) : List Block → Placed Bool
  | [] => .ok false
  | block :: rest => match block with
    | .loop => if wantsLoop then .ok true else leave wantsLoop place rest
    | .groupHandlers => .error ⟨.leavesGroupHandler, place⟩
    | .context => leave wantsLoop none rest
    | .final outcome => do
        outcome
        leave wantsLoop none rest
    | .other => leave wantsLoop place rest

/-- Leave blocks up to the innermost loop, which must be there. -/
def leaveToLoop (site : Site) (outside : PlacementFault) (span : Span) : Placed Unit := do
  if !(← leave true span site.blocks) then throw ⟨outside, span⟩

end Site

/-- Refuse to bind or delete the name that tells whether demands are checked. -/
def checkName (access : Access) (name : String) (span : Span) : Placed Unit :=
  if name ≠ "__debug__" then .ok ()
  else match access with
    | .load => .ok ()
    | .store => .error ⟨.assignsDebug, span⟩
    | .delete => .error ⟨.deletesDebug, span⟩

/-- Refuse names that are given twice, with the span of the second. `place` is where names that cannot
be bound are reported. -/
def checkNames (repeated : String → PlacementFault) (place : Span → Span) :
    List (String × Span) → Placed Unit
  | [] => .ok ()
  | (name, span) :: rest => do
      checkName .store name (place span)
      match rest.find? fun other => other.1 = name with
      | some (_, other) => throw ⟨repeated name, other⟩
      | none => checkNames repeated place rest

end Assay.Source
