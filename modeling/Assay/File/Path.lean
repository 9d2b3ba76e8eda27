import Assay.Text.Cut

/-!
# Paths

Paths are sequences of names behind an optional root. Two slashes at the front are a root of their
own. Single points and doubled slashes do not count, double points do.
-/

namespace Assay

/-- How a path begins: relative, with a slash, or with exactly two. -/
inductive PathRoot where
  | relative
  | slash
  | doubleSlash
  deriving DecidableEq, Repr, Inhabited

/-- The text of a root. -/
def PathRoot.text : PathRoot → String
  | relative => ""
  | slash => "/"
  | doubleSlash => "//"

/-- A path. -/
structure Path where
  root : PathRoot := .relative
  parts : List String := []
  deriving DecidableEq, Repr, Inhabited

namespace Path

/-- The root at the front of a text. -/
def rootOf (cs : List Char) : PathRoot :=
  match (cs.takeWhile (· = '/')).length with
  | 0 => .relative
  | 2 => .doubleSlash
  | _ => .slash

/-- Read a path. -/
def ofString (s : String) : Path :=
  let cs := s.toList
  { root := rootOf cs,
    parts := ((Text.cut '/' cs).map String.ofList).filter fun part => part != "" && part != "." }

/-- Write a path. -/
def toString (p : Path) : String :=
  if p.root = .relative && p.parts.isEmpty then "."
  else p.root.text ++ "/".intercalate p.parts

instance : ToString Path := ⟨toString⟩

/-- Whether a path begins with a root. -/
def isAbsolute (p : Path) : Bool := p.root ≠ .relative

/-- Go on from a path along another; one with a root begins anew. -/
def join (p q : Path) : Path :=
  if q.isAbsolute then q else { p with parts := p.parts ++ q.parts }

/-- Add a name. -/
def child (p : Path) (name : String) : Path := { p with parts := p.parts ++ [name] }

/-- The last name, empty for a bare root. -/
def name (p : Path) : String := p.parts.getLast?.getD ""

/-- The path without its last name. -/
def parent (p : Path) : Path := { p with parts := p.parts.dropLast }

/-- Split a name before its last point, if the point is neither the first nor the last character. -/
def splitSuffix (name : String) : String × String :=
  let cs := name.toList
  let ending := (cs.reverse.takeWhile (· ≠ '.')).length
  if ending = 0 || ending + 1 ≥ cs.length then (name, "")
  else
    let stem := cs.take (cs.length - ending - 1)
    (String.ofList stem, String.ofList (cs.drop stem.length))

/-- The last name without its suffix. -/
def stem (p : Path) : String := (splitSuffix p.name).1

/-- The suffix of the last name, with its point. -/
def suffix (p : Path) : String := (splitSuffix p.name).2

/-- Compare lists of names from the front. -/
def partsLt : List String → List String → Bool
  | _, [] => false
  | [], _ :: _ => true
  | a :: as, b :: bs => if a < b then true else if a = b then partsLt as bs else false

/-- The order of paths: by their roots, then name by name. -/
def lt (p q : Path) : Bool :=
  partsLt ((if p.isAbsolute then [p.root.text] else []) ++ p.parts)
    ((if q.isAbsolute then [q.root.text] else []) ++ q.parts)

end Path

end Assay
