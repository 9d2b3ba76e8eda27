import Assay.File.Path
import Assay.Logged
import Assay.Text.Cut

/-!
# Globs

A star stands for any text, also with slashes in it, a question mark for any character, and a
bracket for one of a set of characters; all else stands for itself. A bracket that is not closed
stands for itself too. Ignored files are told by globs that cover their path, the rest of it behind
some slash, or their name.
-/

namespace Assay

/-- A part of a glob: any text, or one character in or not in some ranges. -/
inductive GlobPart where
  | star
  | one (negated : Bool) (ranges : List (Char × Char))
  deriving DecidableEq, Repr

/-- A glob. -/
abbrev Glob := List GlobPart

namespace Glob

/-- A character that stands for itself. -/
def exactly (c : Char) : GlobPart := .one false [(c, c)]

/-- Any character. -/
def anyChar : GlobPart := .one true []

/-! ## Reading brackets -/

/-- What stands in a bracket, and what follows it. A closing bracket at the front, also behind an
exclamation mark, stands for itself. -/
def bracket? (cs : List Char) : Option (List Char × List Char) :=
  let bang := if cs.head? = some '!' then ['!'] else []
  let cs := cs.drop bang.length
  let first := if cs.head? = some ']' then [']'] else []
  let cs := cs.drop first.length
  let more := cs.takeWhile (· ≠ ']')
  match cs.drop more.length with
  | [] => none
  | _ :: rest => some (bang ++ first ++ more, rest)

/-- The first place of a hyphen from some place on. -/
def hyphenFrom? (least : Nat) (cs : List Char) : Option Nat :=
  ((cs.drop least).findIdx? (· = '-')).map (· + least)

/-- Cut the inside of a bracket at the hyphens that make ranges. Neither the first character nor the
one right behind a range makes one. -/
def chunks : Nat → Nat → List Char → List (List Char)
  | 0, _, cs => [cs]
  | fuel + 1, least, cs =>
      match hyphenFrom? least cs with
      | some k =>
          let rest := cs.drop (k + 1)
          if rest.isEmpty then [cs.take k ++ ['-']]
          else cs.take k :: chunks fuel 2 rest
      | none => [cs]

/-- Join the chunks around ranges that go backwards; the ends of such a range drop out. -/
def dropBackward : List (List Char) → List (List Char)
  | [] => []
  | c :: rest => match dropBackward rest with
    | [] => [c]
    | d :: more =>
        match c.getLast?, d.head? with
        | some a, some b => if b < a then (c.dropLast ++ d.tail) :: more else c :: d :: more
        | _, _ => c :: d :: more

/-- The ranges of chunks: from the end of each to the start of the next; other characters stand
alone. -/
def rangesOf : List (List Char) → List (Char × Char)
  | [] => []
  | [c] => c.map fun x => (x, x)
  | c :: d :: rest =>
      let singles := c.dropLast.map fun x => (x, x)
      let joint := match c.getLast?, d.head? with
        | some a, some b => [(a, b)]
        | _, _ => []
      singles ++ joint ++ rangesOf (d.tail :: rest)
  termination_by chunks => chunks.length

/-- The part that chunks stand for. An exclamation mark at the front stands for all other characters,
and the hyphen behind it, if it is alone, makes no range. -/
def setOfChunks : List (List Char) → GlobPart
  | ['!'] :: d :: rest => .one true (rangesOf (('-' :: d) :: rest))
  | ('!' :: c) :: rest => .one true (rangesOf (c :: rest))
  | chunks => .one false (rangesOf chunks)

/-- The part that the inside of a bracket stands for. An exclamation mark counts also where only
ranges that go backwards are in front of it. -/
def setOf (inside : List Char) : GlobPart :=
  match inside with
  | '!' :: cs => .one true (rangesOf (dropBackward (chunks cs.length 1 cs)))
  | cs => setOfChunks (dropBackward (chunks cs.length 1 cs))

/-- Read a glob. -/
def ofChars : Nat → List Char → Glob
  | 0, _ => []
  | _ + 1, [] => []
  | fuel + 1, c :: cs =>
      if c = '*' then .star :: ofChars fuel cs
      else if c = '?' then anyChar :: ofChars fuel cs
      else if c = '[' then
        match bracket? cs with
        | some (inside, rest) => setOf inside :: ofChars fuel rest
        | none => exactly c :: ofChars fuel cs
      else exactly c :: ofChars fuel cs

/-- Read a glob. -/
def ofString (s : String) : Glob := ofChars (s.length + 1) s.toList

/-! ## Matching -/

/-- Whether a character is the one that a part stands for. -/
def fits (negated : Bool) (ranges : List (Char × Char)) (c : Char) : Bool :=
  (ranges.any fun r => r.1 ≤ c && c ≤ r.2) != negated

/-- For each item of a list, whether it or one behind it holds. -/
def anyBehind : List Bool → List Bool
  | [] => []
  | b :: bs =>
      let rest := anyBehind bs
      (b || rest.headD false) :: rest

/-- For each end of a text, from the whole to the empty one, whether a glob covers it. -/
def coverage : Glob → List Char → List Bool
  | [], cs => List.replicate cs.length false ++ [true]
  | .star :: ps, cs => anyBehind (coverage ps cs)
  | .one negated ranges :: ps, cs =>
      List.zipWith (fun c covered => fits negated ranges c && covered) cs (coverage ps cs).tail ++
        [false]

/-- Whether a glob covers a text. -/
def covers (glob : Glob) (cs : List Char) : Bool := (coverage glob cs).headD false

/-- Whether a glob that is written as a text covers another text. -/
def accepts (glob text : String) : Bool := (ofString glob).covers text.toList

/-! ## Ignored files -/

/-- Whether a glob tells a path: it covers the path, the rest of it behind some slash, or its
name. -/
def tells (path glob : String) : Bool :=
  let p := Path.ofString path
  accepts glob p.toString ||
    accepts ("*/" ++ String.ofList (glob.toList.dropWhile (· = '/'))) p.toString ||
    accepts glob p.name

/-- The first glob that tells a path. -/
def matching? (path : String) (globs : List String) : Option String := globs.find? (tells path)

/-- Leave out the files that some glob tells; each of them is logged. -/
def keepUntold (globs : List String) : List String → Logged (List String)
  | [] => return []
  | file :: rest => do
      match matching? file globs with
      | some glob => do
          Logged.note .debug s!"Ignoring file {file} for pattern {glob}"
          keepUntold globs rest
      | none => return file :: (← keepUntold globs rest)

end Glob

end Assay
