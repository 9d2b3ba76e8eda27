import Assay.Proofs.LinkedTree
import Mathlib.Algebra.BigOperators.Group.List.Basic
import Mathlib.Algebra.Ring.Nat
import Mathlib.Data.List.Induction

/-! # Links that come to an end

A tree has no loops if each of its links comes to an end when it is followed through the links on its
way, and through the links on theirs. In such a tree every path is resolved. No link stands on the way
of what a path resolves to, so that it resolves to itself.
-/

namespace Assay.FileTree

variable {π : Type} {t : FileTree π}

theorem entry?_of_shown? {place : List String} {e : Entry π} (h : t.shown? place = some e) :
    t.entry? place = some e := by
  unfold shown? at h
  split at h
  next => cases h
  next => exact h

/-! ## Ends -/

/-- Where the target of a link in a directory starts. -/
def startOf (place : List String) (target : String) : List String :=
  if (Path.ofString target).isAbsolute then [] else place

/-- Go from a place along a name, when it is known where links end. -/
def stepTo (t : FileTree π) (ends : List String → String → Option (List String))
    (place : List String) (name : String) : Option (List String) :=
  if name = ".." then some place.dropLast
  else match t.shown? (place ++ [name]) with
    | some (.link target) => ends place target
    | _ => some (place ++ [name])

/-- Where a link in a directory ends, if links are nested in each other no deeper than this. -/
def linkEnd? (t : FileTree π) : Nat → List String → String → Option (List String)
  | 0, _, _ => none
  | depth + 1, place, target =>
      (Path.ofString target).parts.foldlM (t.stepTo (linkEnd? t depth)) (startOf place target)

/-- Where names end from a place, if links are nested in each other no deeper than this. -/
def namesEnd? (t : FileTree π) (depth : Nat) (place rest : List String) : Option (List String) :=
  rest.foldlM (t.stepTo (t.linkEnd? depth)) place

/-- A tree in which no link leads to itself: each that is shown comes to an end. -/
def HasNoLoops (t : FileTree π) : Prop :=
  ∀ place name target, t.shown? (place ++ [name]) = some (.link target) →
    ∃ depth q, t.linkEnd? depth place target = some q

theorem namesEnd?_cons (depth : Nat) (place : List String) (name : String) (rest : List String) :
    t.namesEnd? depth place (name :: rest) =
      (t.stepTo (t.linkEnd? depth) place name).bind fun q => t.namesEnd? depth q rest := rfl

theorem stepTo_mono {ends more : List String → String → Option (List String)}
    (h : ∀ place target q, ends place target = some q → more place target = some q)
    {place q : List String} {name : String} (hstep : t.stepTo ends place name = some q) :
    t.stepTo more place name = some q := by
  unfold stepTo at hstep ⊢
  split at hstep
  next hup => rwa [if_pos hup]
  next hup =>
    rw [if_neg hup]
    split at hstep
    next => exact h _ _ _ hstep
    next => exact hstep

theorem foldlM_mono {α β : Type} {f g : α → β → Option α}
    (h : ∀ a b c, f a b = some c → g a b = some c) {bs : List β} {a c : α}
    (hfold : bs.foldlM f a = some c) : bs.foldlM g a = some c := by
  induction bs generalizing a with
  | nil => exact hfold
  | cons b bs ih =>
      obtain ⟨d, hd, hrest⟩ := Option.bind_eq_some_iff.mp hfold
      exact Option.bind_eq_some_iff.mpr ⟨d, h a b d hd, ih hrest⟩

theorem linkEnd?_mono {depth more : Nat} (h : depth ≤ more) {place q : List String}
    {target : String} (hend : t.linkEnd? depth place target = some q) :
    t.linkEnd? more place target = some q := by
  induction depth generalizing more place target q with
  | zero => cases hend
  | succ depth ih =>
      obtain ⟨more, rfl⟩ : ∃ n, more = n + 1 := ⟨more - 1, by omega⟩
      exact foldlM_mono (fun _ _ _ hstep => stepTo_mono (fun _ _ _ => ih (by omega)) hstep) hend

theorem namesEnd?_mono {depth more : Nat} (h : depth ≤ more) {place rest q : List String}
    (hend : t.namesEnd? depth place rest = some q) : t.namesEnd? more place rest = some q :=
  foldlM_mono (fun _ _ _ hstep => stepTo_mono (fun _ _ _ => linkEnd?_mono h) hstep) hend

/-- Links end in one place only. -/
theorem linkEnd?_unique {depth more : Nat} {place q r : List String} {target : String}
    (hq : t.linkEnd? depth place target = some q) (hr : t.linkEnd? more place target = some r) :
    q = r :=
  Option.some.inj ((linkEnd?_mono (Nat.le_max_left depth more) hq).symm.trans
    (linkEnd?_mono (Nat.le_max_right depth more) hr))

/-- If all links come to an end, so do all names. -/
theorem HasNoLoops.namesEnd? (h : t.HasNoLoops) (place rest : List String) :
    ∃ depth q, t.namesEnd? depth place rest = some q := by
  induction rest generalizing place with
  | nil => exact ⟨0, place, rfl⟩
  | cons name rest ih =>
      obtain ⟨first, r, hr⟩ : ∃ depth r, t.stepTo (t.linkEnd? depth) place name = some r := by
        unfold stepTo
        split
        next => exact ⟨0, _, rfl⟩
        next =>
          split
          next target hlink => exact h place name target hlink
          next => exact ⟨0, _, rfl⟩
      obtain ⟨depth, q, hq⟩ := ih r
      refine ⟨max first depth, q, ?_⟩
      rw [namesEnd?_cons, stepTo_mono (fun _ _ _ => linkEnd?_mono (Nat.le_max_left ..)) hr]
      exact namesEnd?_mono (Nat.le_max_right ..) hq

/-! ## Trails -/

/-- What a trail knows of a link: where it ends, or that it is still being followed. -/
def noted (seen : Trail) (place : List String) : Option (Option (List String)) :=
  (seen.find? fun s => s.1 = place).map (·.2)

theorem noted_cons (place q : List String) (known : Option (List String)) (seen : Trail) :
    noted ((q, known) :: seen) place = if q = place then some known else noted seen place := by
  unfold noted
  by_cases hq : q = place <;> simp [hq]

/-- A trail that is right about where links end. Those that are still being followed do not end
within this depth. -/
structure TrailFits (t : FileTree π) (depth : Nat) (seen : Trail) : Prop where
  known : ∀ place name target q, t.shown? (place ++ [name]) = some (.link target) →
    noted seen (place ++ [name]) = some (some q) → ∃ enough, t.linkEnd? enough place target = some q
  pending : ∀ place name target, t.shown? (place ++ [name]) = some (.link target) →
    noted seen (place ++ [name]) = some none → t.linkEnd? depth place target = none

/-- A trail with more links on it than another. None of those is still being followed. -/
structure Grows (seen more : Trail) : Prop where
  kept : ∀ place, (noted seen place).isSome → (noted more place).isSome
  pending : ∀ place, noted more place = some none → noted seen place = some none

theorem Grows.refl (seen : Trail) : Grows seen seen := ⟨fun _ h => h, fun _ h => h⟩

theorem Grows.trans {seen more last : Trail} (h : Grows seen more) (hlast : Grows more last) :
    Grows seen last :=
  ⟨fun place hplace => hlast.kept place (h.kept place hplace),
    fun place hplace => h.pending place (hlast.pending place hplace)⟩

/-- What the links that are not on a trail may still cost. -/
def cost (t : FileTree π) (seen : Trail) : Nat :=
  (t.entries.map fun e => match e.2 with
    | .link target => if (noted seen e.1).isSome then 0 else target.length + 2
    | _ => 0).sum

theorem sum_map_le {α : Type} {f g : α → Nat} {xs : List α} (h : ∀ x ∈ xs, f x ≤ g x) :
    (xs.map f).sum ≤ (xs.map g).sum := by
  induction xs with
  | nil => simp
  | cons x xs ih =>
      rw [List.forall_mem_cons] at h
      have hrest := ih h.2
      simp only [List.map_cons, List.sum_cons]
      omega

theorem sum_map_add_le {α : Type} {f g : α → Nat} {xs : List α} {n : Nat}
    (h : ∀ x ∈ xs, f x ≤ g x) {y : α} (hy : y ∈ xs) (hn : f y + n ≤ g y) :
    (xs.map f).sum + n ≤ (xs.map g).sum := by
  induction xs with
  | nil => cases hy
  | cons x xs ih =>
      rw [List.forall_mem_cons] at h
      simp only [List.map_cons, List.sum_cons]
      rcases List.mem_cons.mp hy with rfl | hy
      · have hrest := sum_map_le h.2
        omega
      · have hrest := ih h.2 hy
        omega

theorem Grows.cost_le {seen more : Trail} (h : Grows seen more) : t.cost more ≤ t.cost seen := by
  refine sum_map_le fun e _ => ?_
  cases e.2 with
  | file | directory => exact Nat.le_refl _
  | link target =>
      by_cases hseen : (noted seen e.1).isSome
      · simp [hseen, h.kept e.1 hseen]
      · simp only [hseen]
        split <;> simp

/-- A link that is entered is paid for. -/
theorem cost_enter {seen : Trail} {place : List String} {target : String} (hplace : place ≠ [])
    (hlink : t.shown? place = some (.link target)) (hnew : noted seen place = none) :
    t.cost ((place, none) :: seen) + (target.length + 2) ≤ t.cost seen := by
  refine sum_map_add_le (fun e _ => ?_) (mem_entries_of_eq_some hplace (entry?_of_shown? hlink)) ?_
  · cases e.2 with
    | file | directory => exact Nat.le_refl _
    | link other =>
        rw [noted_cons]
        by_cases hplace : place = e.1
        · simp [hplace]
        · simp [hplace]
  · simp [noted_cons, hnew]

/-- A link that is entered for the first time comes to an end without entering itself. -/
theorem exists_first_depth {depth : Nat} {place q : List String} {target : String}
    (hend : t.linkEnd? depth place target = some q) :
    ∃ less, less < depth ∧ t.linkEnd? less place target = none ∧
      t.namesEnd? less (startOf place target) (Path.ofString target).parts = some q := by
  induction depth with
  | zero => cases hend
  | succ depth ih =>
      cases hless : t.linkEnd? depth place target with
      | none => exact ⟨depth, Nat.lt_succ_self _, hless, hend⟩
      | some r =>
          rw [linkEnd?_unique hless hend] at hless
          obtain ⟨less, hlt, hnone, hnames⟩ := ih hless
          exact ⟨less, Nat.lt_succ_of_lt hlt, hnone, hnames⟩

/-- The trail while a link is followed that was not on it. -/
theorem TrailFits.enter {depth less : Nat} {seen : Trail} (h : t.TrailFits depth seen)
    (hless : less < depth) {place : List String} {name target : String}
    (hlink : t.shown? (place ++ [name]) = some (.link target))
    (hnone : t.linkEnd? less place target = none) :
    t.TrailFits less ((place ++ [name], none) :: seen) := by
  constructor
  · intro other last target' q hother hnoted
    rw [noted_cons] at hnoted
    split at hnoted
    next => cases hnoted
    next => exact h.known other last target' q hother hnoted
  · intro other last target' hother hnoted
    rw [noted_cons] at hnoted
    split at hnoted
    next heq =>
      obtain ⟨rfl, hlast⟩ := List.append_inj' heq rfl
      rw [← hlast, hlink] at hother
      cases hother
      exact hnone
    next =>
      have hpending := h.pending other last target' hother hnoted
      by_contra hsome
      obtain ⟨q, hq⟩ := Option.ne_none_iff_exists'.mp hsome
      cases hpending.symm.trans (linkEnd?_mono (Nat.le_of_lt hless) hq)

/-- The trail when a link has been followed to its end. -/
theorem Grows.leave {seen more : Trail} {place q : List String}
    (h : Grows ((place, none) :: seen) more) : Grows seen ((place, some q) :: more) := by
  constructor
  · intro other hother
    rw [noted_cons]
    split
    next => rfl
    next hne =>
      refine h.kept other ?_
      rwa [noted_cons, if_neg hne]
  · intro other hother
    rw [noted_cons] at hother
    split at hother
    next => cases hother
    next hne =>
      have hpending := h.pending other hother
      rwa [noted_cons, if_neg hne] at hpending

theorem TrailFits.leave {depth less : Nat} {seen more : Trail} (h : t.TrailFits depth seen)
    (hmore : t.TrailFits less more) {place q : List String} {name target : String}
    (hgrows : Grows ((place ++ [name], none) :: seen) more)
    (hlink : t.shown? (place ++ [name]) = some (.link target))
    (hend : t.linkEnd? depth place target = some q) :
    t.TrailFits depth ((place ++ [name], some q) :: more) := by
  constructor
  · intro other last target' r hother hnoted
    rw [noted_cons] at hnoted
    split at hnoted
    next heq =>
      obtain ⟨rfl, hlast⟩ := List.append_inj' heq rfl
      rw [← hlast, hlink] at hother
      cases hother
      cases hnoted
      exact ⟨depth, hend⟩
    next => exact hmore.known other last target' r hother hnoted
  · exact fun other last target' hother hnoted =>
      h.pending other last target' hother (hgrows.leave.pending _ hnoted)

/-! ## Resolving -/

/-- Names that come to an end are resolved to it. The links that are still being followed are not met
again, because each of them ends deeper than what is left to be resolved. -/
theorem resolveNames_eq_end {depth fuel : Nat} {seen : Trail} {place rest q : List String}
    (hend : t.namesEnd? depth place rest = some q) (hseen : t.TrailFits depth seen)
    (hfuel : rest.length + t.cost seen < fuel) :
    ∃ more, t.resolveNames fuel seen place rest = (q, true, more) ∧ t.TrailFits depth more ∧
      Grows seen more := by
  induction depth using Nat.strongRecOn generalizing fuel seen place rest q with
  | _ depth ihDepth =>
      induction rest generalizing fuel seen place with
      | nil =>
          obtain ⟨fuel, rfl⟩ : ∃ n, fuel = n + 1 := ⟨fuel - 1, by omega⟩
          cases hend
          exact ⟨seen, rfl, hseen, .refl seen⟩
      | cons name rest ih =>
          obtain ⟨fuel, rfl⟩ : ∃ n, fuel = n + 1 := ⟨fuel - 1, by omega⟩
          rw [List.length_cons] at hfuel
          rw [namesEnd?_cons] at hend
          obtain ⟨r, hstep, hrest⟩ := Option.bind_eq_some_iff.mp hend
          unfold stepTo at hstep
          by_cases hup : name = ".."
          · rw [if_pos hup] at hstep
            cases hstep
            unfold resolveNames
            simpa [hup] using ih hrest hseen (by omega)
          · rw [if_neg hup] at hstep
            split at hstep
            next target hlink =>
              unfold resolveNames
              simp only [beq_eq_false_iff_ne.mpr hup, Bool.false_eq_true, if_false, hlink]
              cases hnoted : noted seen (place ++ [name]) with
              | none =>
                  obtain ⟨less, hless, hnone, hnames⟩ := exists_first_depth hstep
                  have hcost := cost_enter (by simp) hlink hnoted
                  have hparts := length_parts_le target
                  obtain ⟨entered, hentered, hfits, hgrows⟩ := ihDepth less hless hnames
                    (hseen.enter hless hlink hnone) (show _ < fuel by omega)
                  have hleft := hgrows.leave (q := r)
                  have hleftCost := hleft.cost_le (t := t)
                  obtain ⟨more, hmore, hmoreFits, hmoreGrows⟩ := ih hrest
                    (hseen.leave hfits hgrows hlink hstep) (show _ < fuel by omega)
                  refine ⟨more, ?_, hmoreFits, hleft.trans hmoreGrows⟩
                  rw [Option.map_eq_none_iff.mp hnoted]
                  simp only [startOf] at hentered
                  simp only [hentered, if_true, hmore]
              | some known =>
                  obtain ⟨⟨p, k⟩, hfind, rfl⟩ := Option.map_eq_some_iff.mp hnoted
                  cases k with
                  | none => cases (hseen.pending _ _ _ hlink hnoted).symm.trans hstep
                  | some known =>
                      obtain ⟨enough, henough⟩ := hseen.known _ _ _ _ hlink hnoted
                      rw [hfind, linkEnd?_unique henough hstep]
                      exact ih hrest hseen (by omega)
            next hlink =>
              cases hstep
              unfold resolveNames
              simp only [beq_eq_false_iff_ne.mpr hup, Bool.false_eq_true, if_false]
              exact ih hrest hseen (by omega)

theorem foldl_add_eq (n : Nat) (sizes : List Nat) : sizes.foldl (· + ·) n = n + sizes.sum := by
  induction sizes generalizing n with
  | nil => rfl
  | cons size sizes ih => rw [List.foldl_cons, ih, List.sum_cons, Nat.add_assoc]

theorem trailFits_nil (depth : Nat) : t.TrailFits depth [] :=
  ⟨fun _ _ _ _ _ h => (nomatch h), fun _ _ _ _ h => (nomatch h)⟩

/-! ## Direct places -/

/-- A place that no link leads to: neither it nor a directory around it is a link. -/
inductive Direct (t : FileTree π) : List String → Prop where
  | root : Direct t []
  | under {place : List String} {name : String} (hplace : Direct t place) (hup : name ≠ "..")
      (hlink : ∀ target, t.shown? (place ++ [name]) ≠ some (.link target)) :
      Direct t (place ++ [name])

theorem utf8ByteSize_intercalate_le (separator : String) {names more : List String}
    (h : names.Sublist more) :
    (separator.intercalate names).utf8ByteSize ≤ (separator.intercalate more).utf8ByteSize := by
  induction h with
  | slnil => exact Nat.le_refl _
  | @cons names more name h ih =>
      cases more with
      | nil => simp [List.sublist_nil.mp h]
      | cons next more =>
          rw [String.intercalate_cons_cons, String.utf8ByteSize_append]
          omega
  | @cons_cons names more name h ih =>
      cases names <;> cases more
      case nil.nil => exact Nat.le_refl _
      case nil.cons =>
        rw [String.intercalate_cons_cons, String.intercalate_singleton, String.utf8ByteSize_append,
          String.utf8ByteSize_append]
        omega
      case cons.nil => cases h
      case cons.cons =>
        simp only [String.intercalate_cons_cons, String.utf8ByteSize_append] at *
        omega

/-- What is in front of a path that is not too long is not too long. -/
theorem isTooLong_front {front back : List String}
    (h : Path.isTooLong ⟨.slash, front ++ back⟩ = false) :
    Path.isTooLong ⟨.slash, front⟩ = false := by
  have hsize := utf8ByteSize_intercalate_le "/" (List.sublist_append_left front back)
  simp only [Path.isTooLong, Path.toString, PathRoot.text, decide_eq_false_iff_not, Nat.not_lt,
    reduceCtorEq, decide_false, Bool.false_and, Bool.false_eq_true, if_false,
    String.utf8ByteSize_append] at *
  omega

theorem isHidden_nil : t.isHidden [] = false := by
  have hlong : Path.isTooLong ⟨.slash, []⟩ = false := by decide +kernel
  simp [isHidden, hlong]

theorem isHidden_concat {place : List String} {name : String} (hplace : t.isHidden place = false)
    (hclosed : t.isClosed place = false)
    (hlong : Path.isTooLong ⟨.slash, place ++ [name]⟩ = false) :
    t.isHidden (place ++ [name]) = false := by
  simp only [isHidden, isClosed, hlong, Bool.false_or, Bool.or_eq_false_iff, List.any_eq_false,
    Bool.and_eq_true, decide_eq_true_eq, not_and, Nat.not_lt, List.contains_eq_mem,
    decide_eq_false_iff_not, List.isPrefixOf_iff_prefix] at *
  intro closed hmem hprefix
  rcases List.prefix_concat_iff.mp hprefix with rfl | hprefix
  · exact Nat.le_refl _
  · have hlength := hplace.2 closed hmem hprefix
    have heq := hprefix.eq_of_length (Nat.le_antisymm hprefix.length_le hlength)
    exact absurd (heq ▸ hmem) hclosed

namespace Direct

theorem concat_iff {place : List String} {name : String} :
    t.Direct (place ++ [name]) ↔ t.Direct place ∧ name ≠ ".." ∧
      ∀ target, t.shown? (place ++ [name]) ≠ some (.link target) := by
  constructor
  · generalize hq : place ++ [name] = q
    rintro (_ | ⟨hplace, hup, hlink⟩)
    · simp at hq
    · obtain ⟨rfl, hlast⟩ := List.append_inj' hq rfl
      cases hlast
      exact ⟨hplace, hup, hlink⟩
  · rintro ⟨hplace, hup, hlink⟩
    exact .under hplace hup hlink

theorem of_append {front back : List String} (h : t.Direct (front ++ back)) : t.Direct front := by
  induction back using List.reverseRecOn with
  | nil => simpa using h
  | append_singleton back name ih =>
      rw [← List.append_assoc] at h
      exact ih (concat_iff.mp h).1

theorem dropLast {place : List String} (h : t.Direct place) : t.Direct place.dropLast := by
  rcases List.eq_nil_or_concat place with rfl | ⟨front, last, rfl⟩
  · exact h
  · rw [List.concat_eq_append] at h ⊢
    rw [List.dropLast_concat]
    exact h.of_append

theorem up_not_mem {place : List String} (h : t.Direct place) : ".." ∉ place := by
  induction h with
  | root => exact List.not_mem_nil
  | under hplace hup hlink ih => simp [ih, Ne.symm hup]

theorem lexical_eq {place : List String} (h : t.Direct place) : lexical place = place :=
  climb_eq_append h.up_not_mem

/-- A direct place is followed without a link, if its path is not too long. -/
theorem follow_ne_tooManyLinks {fuel links : Nat} {place rest : List String}
    (h : t.Direct (place ++ rest)) (hlong : Path.isTooLong ⟨.slash, place ++ rest⟩ = false)
    (hplace : t.isHidden place = false) (hfuel : rest.length < fuel) :
    t.follow fuel links place rest ≠ .error .tooManyLinks := by
  induction rest generalizing fuel place with
  | nil =>
      obtain ⟨fuel, rfl⟩ : ∃ n, fuel = n + 1 := ⟨fuel - 1, by omega⟩
      simp [follow]
  | cons name rest ih =>
      obtain ⟨fuel, rfl⟩ : ∃ n, fuel = n + 1 := ⟨fuel - 1, by omega⟩
      rw [List.append_cons] at h hlong
      obtain ⟨-, hup, hlink⟩ := concat_iff.mp h.of_append
      unfold follow
      split
      next =>
        split
        next => simp
        next hclosed =>
          have hnext : t.isHidden (place ++ [name]) = false :=
            isHidden_concat hplace (by simpa using hclosed) (isTooLong_front hlong)
          have hshown : t.shown? (place ++ [name]) = t.entry? (place ++ [name]) := by
            simp [shown?, hnext]
          have hrest := ih h hlong hnext (Nat.lt_of_succ_lt_succ hfuel)
          simp only [beq_eq_false_iff_ne.mpr hup, Bool.false_eq_true, if_false]
          split
          next => simp
          next =>
            split
            next => simp
            next target htarget => exact absurd (hshown.trans htarget) (hlink target)
            next => exact hrest
      next => simp

/-- A direct place ends where it stands. -/
theorem namesEnd?_eq (depth : Nat) {place rest : List String} (h : t.Direct (place ++ rest)) :
    t.namesEnd? depth place rest = some (place ++ rest) := by
  induction rest generalizing place with
  | nil => rw [List.append_nil]; rfl
  | cons name rest ih =>
      rw [List.append_cons] at h ⊢
      obtain ⟨-, hup, hlink⟩ := concat_iff.mp h.of_append
      have hstep : t.stepTo (t.linkEnd? depth) place name = some (place ++ [name]) := by
        unfold stepTo
        rw [if_neg hup]
        split
        next target htarget => exact absurd htarget (hlink target)
        next => rfl
      rw [namesEnd?_cons, hstep]
      exact ih h

end Direct

/-- What holds at the start of a way and is kept by each of its steps holds at its end. -/
theorem of_foldlM {α β : Type} {P : α → Prop} {f : α → β → Option α} {bs : List β}
    (hstep : ∀ b ∈ bs, ∀ a c, P a → f a b = some c → P c) {a c : α} (ha : P a)
    (hfold : bs.foldlM f a = some c) : P c := by
  induction bs generalizing a with
  | nil =>
      cases hfold
      exact ha
  | cons b bs ih =>
      obtain ⟨d, hd, hrest⟩ := Option.bind_eq_some_iff.mp hfold
      rw [List.forall_mem_cons] at hstep
      exact ih hstep.2 (hstep.1 a d ha hd) hrest

theorem startOf_cases (place : List String) (target : String) :
    startOf place target = [] ∨ startOf place target = place := by
  unfold startOf
  split
  · exact .inl rfl
  · exact .inr rfl

theorem Direct.stepTo {ends : List String → String → Option (List String)}
    (hends : ∀ place target q, t.Direct place → ends place target = some q → t.Direct q)
    {place q : List String} {name : String} (hplace : t.Direct place)
    (hstep : t.stepTo ends place name = some q) : t.Direct q := by
  unfold FileTree.stepTo at hstep
  split at hstep
  next =>
    cases hstep
    exact hplace.dropLast
  next hup =>
    split at hstep
    next target _ => exact hends place target q hplace hstep
    next hlink =>
      cases hstep
      exact .under hplace hup hlink

theorem Direct.linkEnd {depth : Nat} {place q : List String} {target : String}
    (hplace : t.Direct place) (hend : t.linkEnd? depth place target = some q) : t.Direct q := by
  induction depth generalizing place target q with
  | zero => cases hend
  | succ depth ih =>
      refine of_foldlM (fun _ _ _ _ => Direct.stepTo fun _ _ _ => ih) ?_ hend
      rcases startOf_cases place target with hstart | hstart <;> rw [hstart]
      · exact .root
      · exact hplace

/-- No link leads to where names end. -/
theorem Direct.namesEnd {depth : Nat} {place rest q : List String} (hplace : t.Direct place)
    (hend : t.namesEnd? depth place rest = some q) : t.Direct q :=
  of_foldlM (fun _ _ _ _ => Direct.stepTo fun _ _ _ => Direct.linkEnd) hplace hend

/-! ## Names that paths can have -/

/-- Names of which none has a character that no path may have. -/
def IsNulFree (names : List String) : Prop := ∀ name ∈ names, '\x00' ∉ name.toList

theorem hasNul_eq_false_iff {p : Path} : hasNul p = false ↔ IsNulFree p.parts := by
  simp [hasNul, IsNulFree]

theorem IsNulFree.append {front back : List String} :
    IsNulFree (front ++ back) ↔ IsNulFree front ∧ IsNulFree back :=
  List.forall_mem_append

/-- A tree as systems have them: links do not go in circles, and what links and the working directory
name can be there. -/
structure Proper (t : FileTree π) : Prop where
  noLoops : t.HasNoLoops
  links : ∀ place target, t.entry? place = some (.link target) →
    IsNulFree (Path.ofString target).parts
  workingDirectory : IsNulFree t.workingDirectory.parts

namespace Proper

theorem stepTo (h : t.Proper) {ends : List String → String → Option (List String)}
    (hends : ∀ place target q, IsNulFree (Path.ofString target).parts → IsNulFree place →
      ends place target = some q → IsNulFree q)
    {place q : List String} {name : String} (hname : '\x00' ∉ name.toList)
    (hplace : IsNulFree place) (hstep : t.stepTo ends place name = some q) : IsNulFree q := by
  unfold FileTree.stepTo at hstep
  split at hstep
  next =>
    cases hstep
    exact fun part hpart => hplace part ((List.dropLast_sublist place).subset hpart)
  next =>
    split at hstep
    next target hlink => exact hends place target q (h.links _ _ (entry?_of_shown? hlink)) hplace hstep
    next =>
      cases hstep
      exact IsNulFree.append.mpr ⟨hplace, List.forall_mem_singleton.mpr hname⟩

theorem linkEnd (h : t.Proper) {depth : Nat} {place q : List String} {target : String}
    (htarget : IsNulFree (Path.ofString target).parts) (hplace : IsNulFree place)
    (hend : t.linkEnd? depth place target = some q) : IsNulFree q := by
  induction depth generalizing place target q with
  | zero => cases hend
  | succ depth ih =>
      refine of_foldlM (fun name hname _ _ => h.stepTo (fun _ _ _ => ih) (htarget name hname)) ?_
        hend
      rcases startOf_cases place target with hstart | hstart <;> rw [hstart]
      · exact List.forall_mem_nil _
      · exact hplace

theorem namesEnd (h : t.Proper) {depth : Nat} {place rest q : List String}
    (hrest : IsNulFree rest) (hplace : IsNulFree place)
    (hend : t.namesEnd? depth place rest = some q) : IsNulFree q :=
  of_foldlM (fun name hname _ _ => h.stepTo (fun _ _ _ => h.linkEnd) (hrest name hname)) hplace hend

theorem absolute (h : t.Proper) {p : Path} (hp : hasNul p = false) :
    IsNulFree (t.absolute p).parts := by
  rw [hasNul_eq_false_iff] at hp
  unfold FileTree.absolute Path.join
  split
  · exact hp
  · exact IsNulFree.append.mpr ⟨h.workingDirectory, hp⟩

end Proper

/-- There is always enough fuel to resolve a path: it pays for the names of the path and of all
links. -/
theorem resolve_of_not_hasNul {p : Path} (hp : hasNul p = false) :
    ∃ fuel, (t.absolute p).parts.length + t.cost [] < fuel ∧
      t.resolve p =
        let found := (t.resolveNames fuel [] [] (t.absolute p).parts).1
        let resolved : Path := { root := .slash, parts := lexical found }
        match t.locate resolved with
        | .error .tooManyLinks =>
            .error (.of "RuntimeError" ("Symlink loop from " ++ Text.quoted resolved.toString))
        | _ => .ok resolved := by
  unfold hasNul at hp
  refine ⟨_, ?_, by simp only [resolve, hp]; rfl⟩
  rw [foldl_add_eq]
  have henough : ∀ sum, t.cost [] ≤ sum →
      (t.absolute p).parts.length + t.cost [] < ((t.absolute p).parts.length + 2 + sum) * 2 := by
    omega
  refine henough _ (sum_map_le fun e _ => ?_)
  cases e.2 <;> simp [noted]

/-- A path is resolved to where its names end. -/
theorem resolve_of_end {p : Path} (hp : hasNul p = false) {depth : Nat} {q : List String}
    (hend : t.namesEnd? depth [] (t.absolute p).parts = some q) :
    t.resolve p = .ok { root := .slash, parts := q } := by
  have hdirect : t.Direct q := Direct.namesEnd .root hend
  have hloop : t.locate { root := .slash, parts := q } ≠ .error .tooManyLinks := by
    intro hloop
    obtain ⟨⟨⟩, -⟩ | ⟨⟨⟩⟩ | ⟨⟨⟩⟩ | ⟨fuel, hfuel, hlong, hfollow⟩ := locate_eq_error hloop
    have hstart : t.Direct ([] ++ q) := hdirect
    exact hstart.follow_ne_tooManyLinks hlong isHidden_nil hfuel hfollow
  obtain ⟨fuel, hfuel, hresolve⟩ := resolve_of_not_hasNul (t := t) hp
  obtain ⟨more, hnames, -, -⟩ := resolveNames_eq_end hend (trailFits_nil depth) hfuel
  rw [hresolve, hnames]
  simp only [hdirect.lexical_eq]

namespace Proper

/-- Every path that can be there is resolved, and what it resolves to can be there too. -/
theorem resolve_ok (h : t.Proper) {p : Path} (hp : hasNul p = false) :
    ∃ q, t.resolve p = .ok q ∧ hasNul q = false ∧ t.resolve q = .ok q := by
  obtain ⟨depth, q, hend⟩ := h.noLoops.namesEnd? [] (t.absolute p).parts
  have hnul : hasNul { root := .slash, parts := q } = false :=
    hasNul_eq_false_iff.mpr (h.namesEnd (h.absolute hp) (List.forall_mem_nil _) hend)
  have hdirect : t.Direct ([] ++ q) := .namesEnd .root hend
  exact ⟨_, resolve_of_end hp hend, hnul, resolve_of_end hnul (hdirect.namesEnd?_eq 0)⟩

/-- What a path resolves to, resolves to itself. -/
theorem resolve_resolved (h : t.Proper) {p q : Path} (hq : t.resolve p = .ok q) :
    t.resolve q = .ok q ∧ hasNul q = false := by
  cases hp : hasNul p with
  | true =>
      rw [resolve_of_hasNul hp] at hq
      cases hq
  | false =>
      obtain ⟨r, hr, hnul, hself⟩ := h.resolve_ok hp
      cases hr.symm.trans hq
      exact ⟨hself, hnul⟩

/-- What a path leads to can be resolved. -/
theorem resolve_of_locate (h : t.Proper) {p : Path} {found : List String × Entry π}
    (hp : t.locate p = .ok found) : ∃ q, t.resolve p = .ok q ∧ hasNul q = false ∧
      t.resolve q = .ok q := by
  cases hnul : hasNul p with
  | false => exact h.resolve_ok hnul
  | true =>
      rw [locate_of_hasNul hnul] at hp
      cases hp

end Proper

end Assay.FileTree
