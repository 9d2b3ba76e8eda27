import Assay.Project.Glob
import Mathlib.Data.Char
import Mathlib.Data.List.Basic

/-! # Sets in brackets

What stands in a bracket is read from the left: single characters, and ranges where a hyphen stands
between two characters. A bracket is cut at these hyphens, and the ends of ranges that go backwards
drop out; the set that is made of the rest is the one that is read.
-/

namespace Assay.Glob

/-- What stands in a bracket: a character, or a range with its two ends. -/
inductive SetItem where
  | char (c : Char)
  | range (first last : Char)
  deriving DecidableEq, Repr

namespace SetItem

/-- Read what stands in a bracket. A hyphen makes a range of the characters around it, unless one of
these is missing or belongs to a range already. -/
def read : List Char → List SetItem
  | a :: '-' :: b :: cs => .range a b :: read cs
  | a :: cs => .char a :: read cs
  | [] => []

/-- Whether a character is meant by an item. -/
def Has : SetItem → Char → Prop
  | .char a, c => c = a
  | .range a b, c => a ≤ c ∧ c ≤ b

/-- Whether an item is no range that goes backwards. -/
def isForward : SetItem → Bool
  | .char _ => true
  | .range a b => a ≤ b

/-- The first and the last character that an item means. -/
def ends : SetItem → Char × Char
  | .char a => (a, a)
  | .range a b => (a, b)

end SetItem

/-- Whether a character is meant by one of some items. -/
def Among (items : List SetItem) (c : Char) : Prop := ∃ i ∈ items, i.Has c

/-- Whether items let a character through. An exclamation mark at the front lets through all that is
not meant by the others; if it is the start of a range, the hyphen and the end stand for
themselves. -/
def Admitted : List SetItem → Char → Prop
  | .char '!' :: items, c => ¬ Among items c
  | .range '!' b :: items, c => ¬ Among (.char '-' :: .char b :: items) c
  | items, c => Among items c

/-- Whether the inside of a bracket lets a character through: ranges that go backwards do not count.
An exclamation mark in front of everything does not take part in a range. -/
def Admits : List Char → Char → Prop
  | '!' :: cs, c => ¬ Among (SetItem.read cs) c
  | cs, c => Admitted ((SetItem.read cs).filter SetItem.isForward) c

/-! ## Reading -/

namespace SetItem

theorem read_cons_of_ne (a : Char) {b : Char} (h : b ≠ '-') (cs : List Char) :
    read (a :: b :: cs) = .char a :: read (b :: cs) := by
  rw [read]
  rintro c rest hb
  exact absurd (List.cons.inj hb).1 h

/-- Behind the first character, only a hyphen makes a range. -/
theorem read_of_not_mem {a : Char} {cs : List Char} (h : '-' ∉ cs) :
    read (a :: cs) = (a :: cs).map .char := by
  induction cs generalizing a with
  | nil => rfl
  | cons b cs ih =>
      rw [List.mem_cons, not_or] at h
      rw [read_cons_of_ne a (Ne.symm h.1), ih h.2]
      rfl

theorem read_hyphen_last {a : Char} {cs : List Char} (h : '-' ∉ cs) :
    read (a :: (cs ++ ['-'])) = (a :: (cs ++ ['-'])).map .char := by
  induction cs generalizing a with
  | nil => rfl
  | cons b cs ih =>
      rw [List.mem_cons, not_or] at h
      rw [List.cons_append, read_cons_of_ne a (Ne.symm h.1), ih h.2]
      rfl

theorem read_hyphen {front : List Char} (a b : Char) (cs : List Char)
    (h : '-' ∉ (front ++ [a]).tail) :
    read (front ++ a :: '-' :: b :: cs) = front.map .char ++ .range a b :: read cs := by
  induction front with
  | nil => rfl
  | cons x front ih =>
      have hnext : '-' ∉ front ++ [a] := h
      have htail : '-' ∉ (front ++ [a]).tail := fun hmem => hnext (List.mem_of_mem_tail hmem)
      rw [List.map_cons, List.cons_append, List.cons_append, ← ih htail]
      cases front with
      | nil => exact read_cons_of_ne x (fun ha => hnext (by simp [ha])) _
      | cons y front => exact read_cons_of_ne x (fun hy => hnext (by simp [hy])) _

theorem filter_isForward_chars (cs : List Char) :
    (cs.map SetItem.char).filter isForward = cs.map .char :=
  List.filter_eq_self.mpr fun i hi => by
    obtain ⟨c, _, rfl⟩ := List.mem_map.mp hi
    rfl

end SetItem

/-! ## Chunks -/

/-- Chunks that stand for items: between two chunks there is a range, and all else are single
characters. -/
inductive Chunks : List (List Char) → List SetItem → Prop where
  | last (c : List Char) : Chunks [c] (c.map .char)
  | more (c : List Char) (a b : Char) {d : List Char} {rest : List (List Char)}
      {items : List SetItem} (hrest : Chunks (d :: rest) items) :
      Chunks ((c ++ [a]) :: (b :: d) :: rest) (c.map .char ++ .range a b :: items)

theorem Chunks.append (front : List Char) {d : List Char} {rest : List (List Char)}
    {items : List SetItem} (h : Chunks (d :: rest) items) :
    Chunks ((front ++ d) :: rest) (front.map .char ++ items) := by
  cases h with
  | last =>
      rw [← List.map_append]
      exact .last _
  | more c a b hrest =>
      rw [← List.append_assoc, ← List.append_assoc, ← List.map_append]
      exact .more _ a b hrest

theorem Chunks.exists_cons {ch : List (List Char)} {items : List SetItem} (h : Chunks ch items) :
    ∃ d rest, ch = d :: rest := by
  cases h with
  | last c => exact ⟨c, [], rfl⟩
  | more c a b hrest => exact ⟨_, _, rfl⟩

/-- The ranges between chunks and the characters in them are what they stand for. -/
theorem Chunks.rangesOf {ch : List (List Char)} {items : List SetItem} (h : Chunks ch items) :
    Glob.rangesOf ch = items.map SetItem.ends := by
  induction h with
  | last c => simp [Glob.rangesOf, Function.comp_def, SetItem.ends]
  | more c a b hrest ih =>
      simp [Glob.rangesOf, Function.comp_def, SetItem.ends, ih]

/-! ### Cutting -/

variable {a : Char} {front cs : List Char}

theorem findIdx?_hyphen_eq_none (h : '-' ∉ cs) : cs.findIdx? (· = '-') = none := by
  rw [List.findIdx?_eq_none_iff]
  intro c hc
  apply decide_eq_false
  rintro rfl
  exact h hc

theorem hyphenFrom?_of_not_mem (h : '-' ∉ cs) : hyphenFrom? 1 (a :: cs) = none := by
  simp [hyphenFrom?, findIdx?_hyphen_eq_none h]

theorem hyphenFrom?_hyphen (h : '-' ∉ front) (cs : List Char) :
    hyphenFrom? 1 (a :: (front ++ '-' :: cs)) = some (front.length + 1) := by
  simp [hyphenFrom?, List.findIdx?_append, List.findIdx?_cons, findIdx?_hyphen_eq_none h]

theorem hyphenFrom?_cons (b : Char) (cs : List Char) :
    hyphenFrom? 2 (b :: cs) = (hyphenFrom? 1 cs).map (· + 1) := by
  simp only [hyphenFrom?, List.drop_succ_cons, Option.map_map]
  rfl

theorem chunks_of_not_mem (fuel : Nat) (h : '-' ∉ cs) :
    chunks (fuel + 1) 1 (a :: cs) = [a :: cs] := by
  rw [chunks, hyphenFrom?_of_not_mem h]

theorem chunks_hyphen_last (fuel : Nat) (h : '-' ∉ front) :
    chunks (fuel + 1) 1 (a :: (front ++ ['-'])) = [a :: (front ++ ['-'])] := by
  rw [chunks, hyphenFrom?_hyphen h]
  simp

theorem chunks_hyphen (fuel : Nat) (h : '-' ∉ front) (b : Char) (cs : List Char) :
    chunks (fuel + 1) 1 (a :: (front ++ '-' :: b :: cs)) =
      (a :: front) :: chunks fuel 2 (b :: cs) := by
  rw [chunks, hyphenFrom?_hyphen h]
  simp

/-- Behind a range the first character belongs to it, and the others are cut as from the start. -/
theorem chunks_cons (fuel : Nat) (b : Char) (cs : List Char) :
    chunks fuel 2 (b :: cs) = (chunks fuel 1 cs).modifyHead (b :: ·) := by
  cases fuel with
  | zero => rfl
  | succ fuel =>
      rw [chunks, chunks, hyphenFrom?_cons]
      cases hyphenFrom? 1 cs with
      | none => rfl
      | some k =>
          simp only [Option.map_some, List.take_succ_cons, List.drop_succ_cons]
          split <;> rfl

/-- Chunks of which the first is empty only if there is no other. -/
def Leads (ch : List (List Char)) : Prop := ∃ d rest, ch = d :: rest ∧ (d ≠ [] ∨ rest = [])

theorem leads_chunks (fuel : Nat) (cs : List Char) : Leads (chunks fuel 1 cs) := by
  cases fuel with
  | zero => exact ⟨cs, [], rfl, .inr rfl⟩
  | succ fuel =>
      cases cs with
      | nil => exact ⟨[], [], rfl, .inr rfl⟩
      | cons a cs =>
          by_cases h : '-' ∈ cs
          · obtain ⟨front, rest, rfl, hfront⟩ := List.eq_append_cons_of_mem h
            cases rest with
            | nil => exact ⟨_, [], chunks_hyphen_last fuel hfront, .inr rfl⟩
            | cons b rest => exact ⟨_, _, chunks_hyphen fuel hfront b rest, .inl (by simp)⟩
          · exact ⟨_, [], chunks_of_not_mem fuel h, .inr rfl⟩

/-! ### Ranges that go backwards -/

/-- What is put in front of chunks stays in front of what is left of them. -/
theorem dropBackward_modifyHead {ch : List (List Char)} (h : Leads ch) (b : Char) :
    dropBackward (ch.modifyHead (b :: ·)) = (dropBackward ch).modifyHead (b :: ·) := by
  obtain ⟨d, rest, rfl, hd⟩ := h
  rw [List.modifyHead_cons, dropBackward, dropBackward]
  cases hrest : dropBackward rest with
  | nil => rfl
  | cons e more =>
      have hne : d ≠ [] := by
        rcases hd with hd | rfl
        · exact hd
        · cases hrest
      obtain ⟨x, d, rfl⟩ := List.exists_cons_of_ne_nil hne
      simp only [List.getLast?_cons_cons, List.dropLast_cons_cons]
      split
      next => split <;> rfl
      next => rfl

/-- A range whose ends are in order is kept between its chunks, another one is dropped. -/
theorem dropBackward_range (c : List Char) (a b : Char) {ch rest : List (List Char)}
    {d : List Char} {items : List SetItem} (hdrop : dropBackward ch = (b :: d) :: rest)
    (hitems : Chunks (d :: rest) (items.filter SetItem.isForward)) :
    Chunks (dropBackward ((c ++ [a]) :: ch))
      ((c.map SetItem.char ++ SetItem.range a b :: items).filter SetItem.isForward) := by
  have hrange : dropBackward ((c ++ [a]) :: ch) =
      if b < a then (c ++ d) :: rest else (c ++ [a]) :: (b :: d) :: rest := by
    simp [dropBackward, hdrop]
  rw [hrange, List.filter_append, SetItem.filter_isForward_chars]
  split
  next hlt =>
    rw [List.filter_cons_of_neg (by simpa [SetItem.isForward] using hlt)]
    exact hitems.append c
  next hle =>
    rw [List.filter_cons_of_pos (by simpa [SetItem.isForward] using hle)]
    exact .more c a b hitems

/-- What is left of the chunks stands for the items that are no ranges that go backwards. -/
theorem chunks_dropBackward {fuel : Nat} {cs : List Char} (hfuel : cs.length ≤ fuel) :
    Chunks (dropBackward (chunks fuel 1 cs)) ((SetItem.read cs).filter SetItem.isForward) := by
  induction fuel generalizing cs with
  | zero =>
      rw [List.length_eq_zero_iff.mp (Nat.le_zero.mp hfuel)]
      exact .last []
  | succ fuel ih =>
      cases cs with
      | nil => exact .last []
      | cons a cs =>
          by_cases h : '-' ∈ cs
          · obtain ⟨front, rest, rfl, hfront⟩ := List.eq_append_cons_of_mem h
            cases rest with
            | nil =>
                rw [chunks_hyphen_last fuel hfront, SetItem.read_hyphen_last hfront,
                  SetItem.filter_isForward_chars]
                exact .last _
            | cons b rest =>
                have hrest : rest.length ≤ fuel := by
                  simp at hfuel
                  omega
                have hitems := ih hrest
                obtain ⟨d, more, hdrop⟩ := hitems.exists_cons
                rw [hdrop] at hitems
                have hnext : dropBackward (chunks fuel 2 (b :: rest)) = (b :: d) :: more := by
                  rw [chunks_cons, dropBackward_modifyHead (leads_chunks fuel rest), hdrop,
                    List.modifyHead_cons]
                -- the last character in front of the hyphen is the start of the range
                obtain ⟨c, x, hlast⟩ : ∃ c x, a :: front = c ++ [x] :=
                  ⟨_, _, (List.dropLast_append_getLast (List.cons_ne_nil a front)).symm⟩
                have htail : '-' ∉ (c ++ [x]).tail := hlast ▸ hfront
                have htext : a :: (front ++ '-' :: b :: rest) = c ++ x :: '-' :: b :: rest := by
                  rw [← List.cons_append, hlast, List.append_assoc, List.singleton_append]
                rw [chunks_hyphen fuel hfront, hlast, htext, SetItem.read_hyphen x b rest htail]
                exact dropBackward_range c x b hnext hitems
          · rw [chunks_of_not_mem fuel h, SetItem.read_of_not_mem h,
              SetItem.filter_isForward_chars]
            exact .last _

/-! ## Sets -/

theorem fits_iff {ch : List (List Char)} {items : List SetItem} (h : Chunks ch items)
    (negated : Bool) (c : Char) :
    fits negated (rangesOf ch) c = true ↔ if negated then ¬ Among items c else Among items c := by
  have hends : ∀ i : SetItem, (decide (i.ends.1 ≤ c) && decide (c ≤ i.ends.2)) = true ↔ i.Has c := by
    intro i
    rw [Bool.and_eq_true, decide_eq_true_iff, decide_eq_true_iff]
    cases i with
    | char a => exact and_comm.trans le_antisymm_iff.symm
    | range a b => exact Iff.rfl
  have hany : ((rangesOf ch).any fun r => r.1 ≤ c && c ≤ r.2) = true ↔ Among items c := by
    rw [h.rangesOf, List.any_map, List.any_eq_true]
    exact exists_congr fun i => and_congr_right fun _ => hends i
  unfold fits
  cases negated with
  | false => simpa using hany
  | true =>
      rw [bne_iff_ne, ne_eq, hany, if_pos rfl]

theorem fits_false_iff {ch : List (List Char)} {items : List SetItem} (h : Chunks ch items)
    (c : Char) : fits false (rangesOf ch) c = true ↔ Among items c := fits_iff h false c

theorem fits_true_iff {ch : List (List Char)} {items : List SetItem} (h : Chunks ch items)
    (c : Char) : fits true (rangesOf ch) c = true ↔ ¬ Among items c := fits_iff h true c

theorem setOfChunks_of_ne {x : Char} (hx : x ≠ '!') (d : List Char) (rest : List (List Char)) :
    setOfChunks ((x :: d) :: rest) = .one false (rangesOf ((x :: d) :: rest)) := by
  unfold setOfChunks
  split <;> simp_all

theorem setOfChunks_mark {d : List Char} {rest : List (List Char)} (h : d ≠ [] ∨ rest = []) :
    setOfChunks (('!' :: d) :: rest) = .one true (rangesOf (d :: rest)) := by
  unfold setOfChunks
  split <;> simp_all

theorem admitted_char_of_ne {x : Char} (hx : x ≠ '!') (items : List SetItem) (c : Char) :
    Admitted (.char x :: items) c ↔ Among (.char x :: items) c := by
  rw [Admitted]
  all_goals simp_all

theorem admitted_range_of_ne {a : Char} (ha : a ≠ '!') (b : Char) (items : List SetItem)
    (c : Char) : Admitted (.range a b :: items) c ↔ Among (.range a b :: items) c := by
  rw [Admitted]
  all_goals simp_all

/-- The part of chunks lets through what the items that they stand for do. -/
theorem setOfChunks_iff {ch : List (List Char)} {items : List SetItem} (h : Chunks ch items) :
    ∃ negated ranges, setOfChunks ch = .one negated ranges ∧
      ∀ c, fits negated ranges c = true ↔ Admitted items c := by
  cases h with
  | last c =>
      cases c with
      | nil => exact ⟨_, _, rfl, fits_false_iff (.last [])⟩
      | cons x c =>
          by_cases hx : x = '!'
          · subst hx
            exact ⟨_, _, setOfChunks_mark (.inr rfl), fits_true_iff (.last c)⟩
          · exact ⟨_, _, setOfChunks_of_ne hx c [], fun y =>
              (fits_false_iff (.last _) y).trans (admitted_char_of_ne hx _ y).symm⟩
  | more c a b hrest =>
      cases c with
      | nil =>
          by_cases ha : a = '!'
          · -- the hyphen behind the mark is what the marked set begins with
            subst ha
            exact ⟨_, _, rfl, fits_true_iff (hrest.append ['-', b])⟩
          · exact ⟨_, _, setOfChunks_of_ne ha [] _, fun y =>
              (fits_false_iff (.more [] a b hrest) y).trans (admitted_range_of_ne ha b _ y).symm⟩
      | cons x c =>
          by_cases hx : x = '!'
          · subst hx
            exact ⟨_, _, setOfChunks_mark (.inl (by simp)), fits_true_iff (.more c a b hrest)⟩
          · exact ⟨_, _, setOfChunks_of_ne hx (c ++ [a]) _, fun y =>
              (fits_false_iff (.more (x :: c) a b hrest) y).trans
                (admitted_char_of_ne hx _ y).symm⟩

theorem SetItem.not_has_of_backward {i : SetItem} (h : i.isForward = false) (c : Char) :
    ¬ i.Has c := by
  cases i with
  | char a => cases h
  | range a b =>
      rintro ⟨ha, hb⟩
      exact of_decide_eq_false h (le_trans ha hb)

theorem among_filter_isForward (items : List SetItem) (c : Char) :
    Among (items.filter SetItem.isForward) c ↔ Among items c := by
  constructor
  · rintro ⟨i, hi, hc⟩
    exact ⟨i, List.mem_of_mem_filter hi, hc⟩
  · rintro ⟨i, hi, hc⟩
    refine ⟨i, List.mem_filter.mpr ⟨hi, ?_⟩, hc⟩
    by_contra hbackward
    exact SetItem.not_has_of_backward (by simpa using hbackward) c hc

/-- The inside of a bracket is a part that lets through what the inside does. -/
theorem setOf_iff (inside : List Char) :
    ∃ negated ranges, setOf inside = .one negated ranges ∧
      ∀ c, fits negated ranges c = true ↔ Admits inside c := by
  unfold setOf
  split
  next cs =>
    refine ⟨_, _, rfl, fun c => ?_⟩
    rw [fits_true_iff (chunks_dropBackward le_rfl), among_filter_isForward, Admits]
  next hmark =>
    obtain ⟨negated, ranges, hset, hfits⟩ :=
      setOfChunks_iff (chunks_dropBackward (le_refl inside.length))
    refine ⟨negated, ranges, hset, fun c => ?_⟩
    rw [hfits, Admits]
    exact hmark

end Assay.Glob
