import Assay.Proofs.BracketSets
import Assay.Proofs.ProjectRun
import Mathlib.Data.List.TakeWhile

/-! # What globs cover

A glob is read from the left beside the text that it covers. What stands in front of a glob does not
change how the rest is read, so a star and a slash in front cover what the glob covers behind some
slash. Which files are ignored is known by which globs there are, in whatever order and however they
are grouped.
-/

namespace Assay.Glob

/-! ## Covered texts -/

/-- What can stand in a bracket: it ends with the first closing bracket that is not its first
character; an exclamation mark in front is no part of it. -/
def IsInside (inside : List Char) : Prop :=
  let marked := if inside.head? = some '!' then inside.tail else inside
  marked ≠ [] ∧ ']' ∉ marked.tail

/-- A glob covers a text: read side by side, a star takes any characters, a question mark one, and a
bracket one that its inside lets through. A bracket that is not closed and all other characters take
themselves. -/
inductive Covers : List Char → List Char → Prop where
  | done : Covers [] []
  | star {ps cs : List Char} (front : List Char) (hrest : Covers ps cs) :
      Covers ('*' :: ps) (front ++ cs)
  | any {ps cs : List Char} (c : Char) (hrest : Covers ps cs) : Covers ('?' :: ps) (c :: cs)
  | bracket {inside ps cs : List Char} {c : Char} (hinside : IsInside inside)
      (hc : Admits inside c) (hrest : Covers ps cs) : Covers ('[' :: (inside ++ ']' :: ps)) (c :: cs)
  | unclosed {ps cs : List Char} (hopen : ∀ inside rest, IsInside inside → ps ≠ inside ++ ']' :: rest)
      (hrest : Covers ps cs) : Covers ('[' :: ps) ('[' :: cs)
  | itself {ps cs : List Char} {c : Char} (hstar : c ≠ '*') (hany : c ≠ '?') (hbracket : c ≠ '[')
      (hrest : Covers ps cs) : Covers (c :: ps) (c :: cs)

variable {ps cs : List Char}

theorem covers_nil_iff : Covers [] cs ↔ cs = [] := by
  constructor
  · rintro ⟨⟩
    rfl
  · rintro rfl
    exact .done

theorem covers_star_iff :
    Covers ('*' :: ps) cs ↔ ∃ front rest, cs = front ++ rest ∧ Covers ps rest := by
  constructor
  · intro h
    cases h with
    | star front hrest => exact ⟨front, _, rfl, hrest⟩
    | itself hstar => exact absurd rfl hstar
  · rintro ⟨front, rest, rfl, hrest⟩
    exact .star front hrest

theorem covers_any_iff : Covers ('?' :: ps) cs ↔ ∃ c rest, cs = c :: rest ∧ Covers ps rest := by
  constructor
  · intro h
    cases h with
    | any c hrest => exact ⟨c, _, rfl, hrest⟩
    | itself _ hany => exact absurd rfl hany
  · rintro ⟨c, rest, rfl, hrest⟩
    exact .any c hrest

theorem covers_itself_iff {p : Char} (hstar : p ≠ '*') (hany : p ≠ '?') (hbracket : p ≠ '[') :
    Covers (p :: ps) cs ↔ ∃ rest, cs = p :: rest ∧ Covers ps rest := by
  constructor
  · intro h
    cases h with
    | star => exact absurd rfl hstar
    | any => exact absurd rfl hany
    | bracket | unclosed => exact absurd rfl hbracket
    | itself _ _ _ hrest => exact ⟨_, rfl, hrest⟩
  · rintro ⟨rest, rfl, hrest⟩
    exact .itself hstar hany hbracket hrest

theorem covers_unclosed_iff (hopen : ∀ inside rest, IsInside inside → ps ≠ inside ++ ']' :: rest) :
    Covers ('[' :: ps) cs ↔ ∃ rest, cs = '[' :: rest ∧ Covers ps rest := by
  constructor
  · intro h
    cases h with
    | bracket hinside => exact absurd rfl (hopen _ _ hinside)
    | unclosed _ hrest => exact ⟨_, rfl, hrest⟩
    | itself _ _ hbracket => exact absurd rfl hbracket
  · rintro ⟨rest, rfl, hrest⟩
    exact .unclosed hopen hrest

/-- A glob without special characters covers itself only. -/
theorem covers_plain_iff (h : ∀ p ∈ ps, p ≠ '*' ∧ p ≠ '?' ∧ p ≠ '[') : Covers ps cs ↔ cs = ps := by
  induction ps generalizing cs with
  | nil => exact covers_nil_iff
  | cons p ps ih =>
      obtain ⟨⟨hstar, hany, hbracket⟩, hps⟩ := List.forall_mem_cons.mp h
      rw [covers_itself_iff hstar hany hbracket]
      simp only [ih hps, exists_eq_right]

/-! ## Brackets -/

/-- What stands in front of the first closing bracket, and what stands behind it. -/
def closing? (ps : List Char) : Option (List Char × List Char) :=
  let front := ps.takeWhile (· ≠ ']')
  match ps.drop front.length with
  | [] => none
  | _ :: rest => some (front, rest)

theorem takeWhile_append_closing {front : List Char} (h : ']' ∉ front) (rest : List Char) :
    (front ++ rest).takeWhile (· ≠ ']') = front ++ rest.takeWhile (· ≠ ']') := by
  apply List.takeWhile_append_of_pos
  intro c hc
  apply decide_eq_true
  rintro rfl
  exact h hc

theorem closing?_append {front : List Char} (h : ']' ∉ front) (rest : List Char) :
    closing? (front ++ ']' :: rest) = some (front, rest) := by
  have hfront : (front ++ ']' :: rest).takeWhile (· ≠ ']') = front := by
    rw [takeWhile_append_closing h, List.takeWhile_cons_of_neg (by simp), List.append_nil]
  rw [closing?, hfront, List.drop_left]

theorem closing?_of_not_mem (h : ']' ∉ ps) : closing? ps = none := by
  have hfront : ps.takeWhile (· ≠ ']') = ps := by simpa using takeWhile_append_closing h []
  rw [closing?, hfront, List.drop_length]

theorem closing?_eq_some_iff {front rest : List Char} :
    closing? ps = some (front, rest) ↔ ']' ∉ front ∧ ps = front ++ ']' :: rest := by
  constructor
  · intro h
    by_cases hmem : ']' ∈ ps
    · obtain ⟨other, others, rfl, hother⟩ := List.eq_append_cons_of_mem hmem
      rw [closing?_append hother] at h
      cases h
      exact ⟨hother, rfl⟩
    · rw [closing?_of_not_mem hmem] at h
      cases h
  · rintro ⟨hfront, rfl⟩
    exact closing?_append hfront rest

theorem closing?_cons {x : Char} (hx : x ≠ ']') (ps : List Char) :
    closing? (x :: ps) = (closing? ps).map fun found => (x :: found.1, found.2) := by
  have hfront : (x :: ps).takeWhile (· ≠ ']') = x :: ps.takeWhile (· ≠ ']') :=
    List.takeWhile_cons_of_pos (decide_eq_true hx)
  rw [closing?, closing?, hfront, List.length_cons, List.drop_succ_cons]
  cases ps.drop (ps.takeWhile (· ≠ ']')).length <;> rfl

/-- The first character is inside, whatever it is. -/
theorem bracket?_cons {x : Char} (hx : x ≠ '!') (ps : List Char) :
    bracket? (x :: ps) = (closing? ps).map fun found => (x :: found.1, found.2) := by
  by_cases hclosing : x = ']'
  · subst hclosing
    cases hrest : ps.drop (ps.takeWhile (· ≠ ']')).length <;>
      simp only [bracket?, closing?, List.head?_cons, Option.some.injEq, hx, if_false, if_true,
        List.length_nil, List.length_singleton, List.drop_zero, List.drop_one, List.tail_cons,
        List.nil_append, List.singleton_append, hrest, Option.map_none, Option.map_some]
  · rw [← closing?_cons hclosing]
    cases hrest : (x :: ps).drop ((x :: ps).takeWhile (· ≠ ']')).length <;>
      simp only [bracket?, closing?, List.head?_cons, Option.some.injEq, hx, hclosing, if_false,
        List.length_nil, List.drop_zero, List.nil_append, hrest]

/-- An exclamation mark in front of it is inside as well. -/
theorem bracket?_mark (x : Char) (ps : List Char) :
    bracket? ('!' :: x :: ps) = (closing? ps).map fun found => ('!' :: x :: found.1, found.2) := by
  by_cases hclosing : x = ']'
  · subst hclosing
    cases hrest : ps.drop (ps.takeWhile (· ≠ ']')).length <;>
      simp only [bracket?, closing?, List.head?_cons, if_true, List.length_singleton,
        List.drop_one, List.tail_cons, List.cons_append, List.nil_append, hrest, Option.map_none,
        Option.map_some]
  · have hmap : (closing? ps).map (fun found => ('!' :: x :: found.1, found.2)) =
        (closing? (x :: ps)).map fun found => ('!' :: found.1, found.2) := by
      rw [closing?_cons hclosing, Option.map_map]
      rfl
    rw [hmap]
    cases hrest : (x :: ps).drop ((x :: ps).takeWhile (· ≠ ']')).length <;>
      simp only [bracket?, closing?, List.head?_cons, if_true, List.length_singleton,
        List.drop_one, List.tail_cons, Option.some.injEq, hclosing, if_false, List.length_nil,
        List.drop_zero, List.append_nil, List.singleton_append, hrest, Option.map_none,
        Option.map_some]

theorem isInside_mark {x : Char} {more : List Char} :
    IsInside ('!' :: x :: more) ↔ ']' ∉ more := by
  simp [IsInside]

theorem isInside_cons {x : Char} (hx : x ≠ '!') {more : List Char} :
    IsInside (x :: more) ↔ ']' ∉ more := by
  simp [IsInside, hx]

theorem exists_of_isInside {inside : List Char} (h : IsInside inside) :
    (∃ x more, inside = '!' :: x :: more ∧ ']' ∉ more) ∨
      ∃ x more, x ≠ '!' ∧ inside = x :: more ∧ ']' ∉ more := by
  cases inside with
  | nil => exact absurd rfl h.1
  | cons x more =>
      by_cases hx : x = '!'
      · subst hx
        cases more with
        | nil => exact absurd rfl h.1
        | cons y more => exact .inl ⟨y, more, rfl, isInside_mark.mp h⟩
      · exact .inr ⟨x, more, hx, rfl, (isInside_cons hx).mp h⟩

/-- Where a bracket is read it has an inside, and the rest is what stands behind it. -/
theorem bracket?_eq_some_iff {inside rest : List Char} :
    bracket? ps = some (inside, rest) ↔ IsInside inside ∧ ps = inside ++ ']' :: rest := by
  constructor
  · intro h
    cases ps with
    | nil => cases h
    | cons x ps =>
        by_cases hx : x = '!'
        · subst hx
          cases ps with
          | nil => cases h
          | cons x ps =>
              rw [bracket?_mark] at h
              obtain ⟨⟨front, behind⟩, hfound, hsame⟩ := Option.map_eq_some_iff.mp h
              obtain ⟨hfront, rfl⟩ := closing?_eq_some_iff.mp hfound
              cases hsame
              exact ⟨isInside_mark.mpr hfront, rfl⟩
        · rw [bracket?_cons hx] at h
          obtain ⟨⟨front, behind⟩, hfound, hsame⟩ := Option.map_eq_some_iff.mp h
          obtain ⟨hfront, rfl⟩ := closing?_eq_some_iff.mp hfound
          cases hsame
          exact ⟨(isInside_cons hx).mpr hfront, rfl⟩
  · rintro ⟨hinside, rfl⟩
    rcases exists_of_isInside hinside with ⟨x, more, rfl, hmore⟩ | ⟨x, more, hx, rfl, hmore⟩
    · rw [List.cons_append, List.cons_append, bracket?_mark, closing?_append hmore]
      rfl
    · rw [List.cons_append, bracket?_cons hx, closing?_append hmore]
      rfl

theorem bracket?_eq_none_iff :
    bracket? ps = none ↔ ∀ inside rest, IsInside inside → ps ≠ inside ++ ']' :: rest := by
  rw [Option.eq_none_iff_forall_ne_some]
  constructor
  · intro h inside rest hinside hps
    exact h (inside, rest) (bracket?_eq_some_iff.mpr ⟨hinside, hps⟩)
  · rintro h ⟨inside, rest⟩ hsome
    obtain ⟨hinside, hps⟩ := bracket?_eq_some_iff.mp hsome
    exact h inside rest hinside hps

theorem covers_bracket_iff {inside rest : List Char} (hinside : IsInside inside) :
    Covers ('[' :: (inside ++ ']' :: rest)) cs ↔
      ∃ c more, cs = c :: more ∧ Admits inside c ∧ Covers rest more := by
  constructor
  · intro h
    generalize hps : inside ++ ']' :: rest = ps at h
    cases h with
    | @bracket other _ _ _ hother hc hrest =>
        -- a bracket is closed in one place only
        have hsame := (bracket?_eq_some_iff.mpr ⟨hinside, hps.symm⟩).symm.trans
          (bracket?_eq_some_iff.mpr ⟨hother, rfl⟩)
        cases hsame
        exact ⟨_, _, rfl, hc, hrest⟩
    | unclosed hopen => exact absurd hps.symm (hopen inside rest hinside)
    | itself _ _ hbracket => exact absurd rfl hbracket
  · rintro ⟨c, more, rfl, hc, hrest⟩
    exact .bracket hinside hc hrest

/-! ## Coverage -/

theorem length_anyBehind (bs : List Bool) : (anyBehind bs).length = bs.length := by
  induction bs with
  | nil => rfl
  | cons b bs ih => simp [anyBehind, ih]

theorem length_coverage (glob : Glob) (cs : List Char) :
    (coverage glob cs).length = cs.length + 1 := by
  induction glob with
  | nil => simp [coverage]
  | cons part glob ih =>
      cases part with
      | star => rw [coverage, length_anyBehind, ih]
      | one negated ranges => simp [coverage, ih]

/-- For each end of a text it is told apart whether the glob covers it. -/
theorem coverage_eq_cons (glob : Glob) (cs : List Char) :
    coverage glob cs = glob.covers cs :: (coverage glob cs).tail := by
  have hlength := length_coverage glob cs
  unfold covers
  cases hcoverage : coverage glob cs with
  | nil => simp [hcoverage] at hlength
  | cons b bs => rfl

theorem tail_coverage (glob : Glob) (c : Char) (cs : List Char) :
    (coverage glob (c :: cs)).tail = coverage glob cs := by
  induction glob with
  | nil => simp [coverage, List.replicate_succ]
  | cons part glob ih =>
      cases part with
      | star =>
          rw [coverage, coverage, coverage_eq_cons glob (c :: cs), ih, anyBehind]
          rfl
      | one negated ranges =>
          rw [coverage, coverage, ih]
          conv_lhs => rw [coverage_eq_cons glob cs]
          rfl

theorem nil_covers_iff : covers [] cs = true ↔ cs = [] := by
  cases cs <;> simp [covers, coverage, List.replicate_succ]

theorem star_covers_cons (glob : Glob) (c : Char) (cs : List Char) :
    covers (.star :: glob) (c :: cs) = (glob.covers (c :: cs) || covers (.star :: glob) cs) := by
  have htail := tail_coverage glob c cs
  rw [covers, coverage, coverage_eq_cons glob (c :: cs), htail]
  rfl

theorem star_covers_iff (glob : Glob) :
    covers (.star :: glob) cs = true ↔ ∃ front rest, cs = front ++ rest ∧ glob.covers rest = true := by
  induction cs with
  | nil =>
      have hone : covers (.star :: glob) [] = glob.covers [] := by
        have hlength := length_coverage glob []
        have htail : (coverage glob []).tail = [] :=
          List.length_eq_zero_iff.mp (by rw [List.length_tail, hlength, List.length_nil])
        rw [covers, coverage, coverage_eq_cons glob [], htail]
        simp [anyBehind]
      rw [hone]
      constructor
      · exact fun h => ⟨[], [], rfl, h⟩
      · rintro ⟨front, rest, hempty, h⟩
        rwa [(List.append_eq_nil_iff.mp hempty.symm).2] at h
  | cons c cs ih =>
      rw [star_covers_cons, Bool.or_eq_true, ih]
      constructor
      · rintro (h | ⟨front, rest, rfl, h⟩)
        · exact ⟨[], c :: cs, rfl, h⟩
        · exact ⟨c :: front, rest, rfl, h⟩
      · rintro ⟨front, rest, hsplit, h⟩
        cases front with
        | nil => exact .inl (hsplit ▸ h)
        | cons d front =>
            obtain ⟨rfl, rfl⟩ := List.cons.inj hsplit
            exact .inr ⟨front, rest, rfl, h⟩

theorem one_covers_cons (negated : Bool) (ranges : List (Char × Char)) (glob : Glob) (c : Char)
    (cs : List Char) :
    covers (.one negated ranges :: glob) (c :: cs) =
      (fits negated ranges c && glob.covers cs) := by
  rw [covers, coverage, tail_coverage, coverage_eq_cons glob cs]
  rfl

theorem one_covers_iff (negated : Bool) (ranges : List (Char × Char)) (glob : Glob) :
    covers (.one negated ranges :: glob) cs = true ↔
      ∃ c rest, cs = c :: rest ∧ fits negated ranges c = true ∧ glob.covers rest = true := by
  cases cs with
  | nil => simp [covers, coverage]
  | cons c cs =>
      rw [one_covers_cons, Bool.and_eq_true]
      constructor
      · exact fun h => ⟨c, cs, rfl, h⟩
      · rintro ⟨d, rest, hsplit, h⟩
        cases hsplit
        exact h

/-! ## Reading -/

theorem exactly_covers_iff (p : Char) (glob : Glob) :
    covers (exactly p :: glob) cs = true ↔ ∃ rest, cs = p :: rest ∧ glob.covers rest = true := by
  have hfits : ∀ c, fits false [(p, p)] c = true ↔ c = p := by
    intro c
    rw [fits, List.any_cons, List.any_nil, Bool.or_false, Bool.bne_false, Bool.and_eq_true,
      decide_eq_true_iff, decide_eq_true_iff]
    exact and_comm.trans le_antisymm_iff.symm
  rw [exactly, one_covers_iff]
  simp only [hfits]
  constructor
  · rintro ⟨c, rest, rfl, rfl, h⟩
    exact ⟨rest, rfl, h⟩
  · rintro ⟨rest, rfl, h⟩
    exact ⟨p, rest, rfl, rfl, h⟩

theorem anyChar_covers_iff (glob : Glob) :
    covers (anyChar :: glob) cs = true ↔ ∃ c rest, cs = c :: rest ∧ glob.covers rest = true := by
  simp [anyChar, one_covers_iff, fits]

/-- A glob that is read covers what it says: each part that is read is one way to begin a text. -/
theorem covers_ofChars {fuel : Nat} (hfuel : ps.length < fuel) :
    (ofChars fuel ps).covers cs = true ↔ Covers ps cs := by
  induction fuel generalizing ps cs with
  | zero => exact absurd hfuel (Nat.not_lt_zero _)
  | succ fuel ih =>
      cases ps with
      | nil => exact nil_covers_iff.trans covers_nil_iff.symm
      | cons p ps =>
          have hps : ps.length < fuel := Nat.lt_of_succ_lt_succ hfuel
          unfold ofChars
          split
          next hstar =>
            subst hstar
            rw [star_covers_iff, covers_star_iff]
            simp only [ih hps]
          next hstar =>
            split
            next hany =>
              subst hany
              rw [anyChar_covers_iff, covers_any_iff]
              simp only [ih hps]
            next hany =>
              split
              next hbracket =>
                subst hbracket
                split
                next inside rest hread =>
                  obtain ⟨hinside, rfl⟩ := bracket?_eq_some_iff.mp hread
                  obtain ⟨negated, ranges, hset, hfits⟩ := setOf_iff inside
                  have hrest : rest.length < fuel := by
                    simp at hps
                    omega
                  rw [hset, one_covers_iff, covers_bracket_iff hinside]
                  simp only [ih hrest, hfits]
                next hread =>
                  rw [exactly_covers_iff, covers_unclosed_iff (bracket?_eq_none_iff.mp hread)]
                  simp only [ih hps]
              next hbracket =>
                rw [exactly_covers_iff, covers_itself_iff hstar hany hbracket]
                simp only [ih hps]

theorem accepts_iff {glob text : String} :
    accepts glob text = true ↔ Covers glob.toList text.toList :=
  covers_ofChars (by rw [String.length_toList]; exact Nat.lt_succ_self _)

example : accepts "a[b" "a[b" = true ∧ accepts "[b-a!x]" "y" = true := by decide +kernel

/-! ## Ignored files -/

/-- A glob tells a path: it covers the path or its name, or without slashes in front it covers what
stands behind some slash of the path. -/
def Told (path glob : String) : Prop :=
  let p := Path.ofString path
  Covers glob.toList p.toString.toList ∨
    (∃ front rest, p.toString.toList = front ++ '/' :: rest ∧
      Covers (glob.toList.dropWhile (· = '/')) rest) ∨
    Covers glob.toList p.name.toList

/-- A star and a slash in front of a glob cover what the glob covers behind some slash. -/
theorem covers_behind_slash_iff :
    Covers ('*' :: '/' :: ps) cs ↔ ∃ front rest, cs = front ++ '/' :: rest ∧ Covers ps rest := by
  have hslash : ∀ cs, Covers ('/' :: ps) cs ↔ ∃ rest, cs = '/' :: rest ∧ Covers ps rest :=
    fun cs => covers_itself_iff (by decide) (by decide) (by decide)
  rw [covers_star_iff]
  constructor
  · rintro ⟨front, _, rfl, h⟩
    obtain ⟨rest, rfl, hrest⟩ := (hslash _).mp h
    exact ⟨front, rest, rfl, hrest⟩
  · rintro ⟨front, rest, rfl, h⟩
    exact ⟨front, '/' :: rest, rfl, (hslash _).mpr ⟨rest, rfl, h⟩⟩

theorem tells_iff {path glob : String} : tells path glob = true ↔ Told path glob := by
  have hglob : ("*/" ++ String.ofList (glob.toList.dropWhile (· = '/'))).toList =
      '*' :: '/' :: glob.toList.dropWhile (· = '/') := by
    rw [String.toList_append]
    simp only [String.toList_ofList, String.reduceToList, List.cons_append, List.nil_append]
  unfold tells Told
  rw [Bool.or_eq_true, Bool.or_eq_true, accepts_iff, accepts_iff, accepts_iff, hglob,
    covers_behind_slash_iff, or_assoc]

theorem matching?_eq_none_iff {path : String} {globs : List String} :
    matching? path globs = none ↔ ∀ glob ∈ globs, ¬ Told path glob := by
  simp only [matching?, List.find?_eq_none, tells_iff]

theorem mem_keepUntold_iff {globs files : List String} {file : String} :
    file ∈ (keepUntold globs files).value ↔ file ∈ files ∧ ∀ glob ∈ globs, ¬ Told file glob := by
  rw [keepUntold_value, List.mem_filter, Option.isNone_iff_eq_none, matching?_eq_none_iff]

/-- Which files are kept is known by what globs there are. -/
theorem keepUntold_congr {globs others : List String} (h : ∀ glob, glob ∈ globs ↔ glob ∈ others)
    (files : List String) : (keepUntold globs files).value = (keepUntold others files).value := by
  rw [keepUntold_value, keepUntold_value]
  refine List.filter_congr fun file _ => Bool.eq_iff_iff.mpr ?_
  simp only [Option.isNone_iff_eq_none, matching?_eq_none_iff, h]

/-- A path is told by the first glob that covers it, its name or what stands behind one of its
slashes, and by none if there is no such glob. So the order of globs does not matter for which files
are kept, and globs that are joined keep what they keep one after the other. -/
theorem matching?_first (globs : List String) :
    (∀ path glob, matching? path globs = some glob ↔ ∃ before after,
      globs = before ++ glob :: after ∧ Told path glob ∧ ∀ other ∈ before, ¬ Told path other) ∧
    (∀ path, matching? path globs = none ↔ ∀ glob ∈ globs, ¬ Told path glob) ∧
    (∀ files file, file ∈ (keepUntold globs files).value ↔
      file ∈ files ∧ ∀ glob ∈ globs, ¬ Told file glob) ∧
    (∀ files others, others.Perm globs →
      (keepUntold others files).value = (keepUntold globs files).value) ∧
    ∀ files more, (keepUntold (globs ++ more) files).value =
      (keepUntold more (keepUntold globs files).value).value := by
  refine ⟨fun path glob => ?first, fun _ => matching?_eq_none_iff, fun _ _ => mem_keepUntold_iff,
    fun files others hperm => keepUntold_congr (fun _ => hperm.mem_iff) files,
    fun files more => ?joined⟩
  case first =>
    rw [matching?, List.find?_eq_some_iff_append, tells_iff]
    simp only [Bool.not_eq_true', ← Bool.not_eq_true, tells_iff]
    constructor
    · rintro ⟨htold, before, after, rfl, hbefore⟩
      exact ⟨before, after, rfl, htold, hbefore⟩
    · rintro ⟨before, after, rfl, htold, hbefore⟩
      exact ⟨htold, before, after, rfl, hbefore⟩
  case joined =>
    simp only [keepUntold_value, List.filter_filter]
    refine List.filter_congr fun file _ => ?_
    rw [matching?, matching?, matching?, List.find?_append, Option.isNone_or, Bool.and_comm]

end Assay.Glob
