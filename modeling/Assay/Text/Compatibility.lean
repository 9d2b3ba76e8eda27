import Std.Data.HashMap
import Assay.Text.CompatibilityData

/-!
# Compatibility normalization of identifiers

`Compatibility.normalize` is Unicode's form NFKC: characters are replaced by their compatibility
decompositions, combining marks are put into canonical order, and pairs are composed again. Two
spellings of an identifier name the same thing exactly when their normal forms agree.
-/

namespace Assay.Text.Compatibility

/-- Full compatibility decompositions by code point. -/
def decompositions : Std.HashMap Nat (List Nat) :=
  (decompositionRows.splitToList (· = ',')).foldl (fun table row =>
    match row.splitToList (· = '-') with
    | [code, parts] => match hexFields ',' code with
      | [n] => table.insert n (hexFields '.' parts)
      | _ => table
    | _ => table) {}

/-- Ranges of code points with their canonical combining class. -/
def combiningRanges : Array (Nat × Nat × Nat) :=
  ((combiningRows.splitToList (· = ',')).filterMap fun row =>
    match hexFields '-' row with
    | [first, last, cls] => some (first, last, cls)
    | _ => none).toArray

/-- Composites by the pair they are made of. -/
def compositions : Std.HashMap (Nat × Nat) Nat :=
  (compositionRows.splitToList (· = ',')).foldl (fun table row =>
    match hexFields '-' row with
    | [first, second, composite] => table.insert (first, second) composite
    | _ => table) {}

/-- The canonical combining class of a code point, zero for starters. -/
def combiningClass (n : Nat) : Nat :=
  match combiningRanges.find? fun (first, last, _) => first ≤ n ∧ n ≤ last with
  | some (_, _, cls) => cls
  | none => 0

/-- Decompose one code point; Hangul syllables fall into their jamo. -/
def decompose (n : Nat) : List Nat :=
  if 0xAC00 ≤ n ∧ n ≤ 0xD7A3 then
    let index := n - 0xAC00
    let trail := index % 28
    let pair := [0x1100 + index / 588, 0x1161 + index % 588 / 28]
    if trail = 0 then pair else pair ++ [0x11A7 + trail]
  else decompositions.getD n [n]

/-- Insert a mark behind all marks of the same or a lower class. -/
def insertMark (mark : Nat × Nat) : List (Nat × Nat) → List (Nat × Nat)
  | [] => [mark]
  | other :: rest =>
      if mark.2 < other.2 then mark :: other :: rest else other :: insertMark mark rest

/-- Put the marks after each starter into the order of their classes. -/
def reorder : List (Nat × Nat) → List (Nat × Nat) → List (Nat × Nat)
  | marks, [] => marks
  | marks, (n, cls) :: rest =>
      if cls = 0 then marks ++ (n, cls) :: reorder [] rest
      else reorder (insertMark (n, cls) marks) rest

/-- The composite of a starter and a following character, if they have one. -/
def compose? (a b : Nat) : Option Nat :=
  if 0x1100 ≤ a ∧ a < 0x1113 ∧ 0x1161 ≤ b ∧ b < 0x1176 then
    some (0xAC00 + ((a - 0x1100) * 21 + (b - 0x1161)) * 28)
  else if 0xAC00 ≤ a ∧ a ≤ 0xD7A3 ∧ (a - 0xAC00) % 28 = 0 ∧ 0x11A7 < b ∧ b < 0x11C3 then
    some (a + (b - 0x11A7))
  else compositions[(a, b)]?

/-- Compose the characters after a starter with it. `kept` holds, in reverse, the characters since
the starter that could not be composed, and `last` the class of the latest of them. -/
def composeFrom (starter : Nat) (kept : List Nat) (last : Option Nat) :
    List (Nat × Nat) → List Nat
  | [] => starter :: kept.reverse
  | (n, cls) :: rest =>
      let blocked := match last with
        | none => false
        | some l => l = 0 || cls ≤ l
      match (if blocked then none else compose? starter n) with
      | some composite => composeFrom composite kept last rest
      | none =>
          if cls = 0 then starter :: (kept.reverse ++ composeFrom n [] none rest)
          else composeFrom starter (n :: kept) (some cls) rest

/-- Compose a decomposed and ordered text; marks before the first starter stay as they are. -/
def composeAll : List (Nat × Nat) → List Nat
  | [] => []
  | (n, cls) :: rest => if cls = 0 then composeFrom n [] none rest else n :: composeAll rest

/-- The compatibility normal form of a text. A text of ASCII characters is its own. -/
def normalize (s : String) : String :=
  if s.toList.all fun c => c.toNat < 128 then s
  else
    let parts := s.toList.flatMap fun c => decompose c.toNat
    let ordered := reorder [] (parts.map fun n => (n, combiningClass n))
    String.ofList ((composeAll ordered).map Char.ofNat)

end Assay.Text.Compatibility
