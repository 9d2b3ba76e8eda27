import Assay.Logged
import Assay.Value.Order
import Mathlib.Data.List.Nodup
import Mathlib.Data.List.Pairwise
import Mathlib.Data.String.Basic

/-! # Sorting by keys

A comparison that goes by keys never fails on the items at hand. Sorting with it is plain insertion
sort, whatever runs the input begins with and wherever the binary search looks: the result is a
permutation in ascending order, and with distinct keys it depends on the items only. With any other
comparison sorting can fail, but what it gives is still a permutation.
-/

namespace Assay.Value

variable {α ε κ : Type} [LinearOrder κ]

/-- A comparison that goes by keys on some items. -/
def ComparesBy (less : α → α → Except ε Bool) (key : α → κ) (xs : List α) : Prop :=
  ∀ x ∈ xs, ∀ y ∈ xs, less x y = .ok (decide (key x < key y))

/-- Items in ascending order of their keys. -/
def Ascending (key : α → κ) (xs : List α) : Prop :=
  xs.Pairwise fun x y => key x ≤ key y

/-- Insertion by keys. -/
abbrev insertByKey (key : α → κ) : α → List α → List α :=
  insertBy fun x y => decide (key x < key y)

/-- Insertion sort by keys. -/
abbrev sortByKey (key : α → κ) : List α → List α :=
  sortBy fun x y => decide (key x < key y)

theorem ComparesBy.of_subset {less : α → α → Except ε Bool} {key : α → κ} {xs ys : List α}
    (h : ComparesBy less key ys) (hsub : ∀ x ∈ xs, x ∈ ys) : ComparesBy less key xs :=
  fun x hx y hy => h x (hsub x hx) y (hsub y hy)

/-! ## Insertion -/

theorem insertBy_perm (less : α → α → Bool) (x : α) (ys : List α) :
    (insertBy less x ys).Perm (x :: ys) := by
  induction ys with
  | nil => exact List.Perm.refl _
  | cons y ys ih =>
      unfold insertBy
      split
      · exact List.Perm.refl _
      · exact (ih.cons y).trans (List.Perm.swap x y ys)

/-- An item goes between those that it is not less than and those that it is less than. -/
theorem insertBy_append (less : α → α → Bool) (x : α) (front back : List α)
    (hfront : ∀ y ∈ front, less x y = false) (hback : ∀ y ∈ back, less x y = true) :
    insertBy less x (front ++ back) = front ++ x :: back := by
  induction front with
  | nil =>
      cases back with
      | nil => rfl
      | cons y ys => simp [insertBy, hback y List.mem_cons_self]
  | cons y ys ih =>
      have hy : less x y = false := hfront y List.mem_cons_self
      have htail := ih fun z hz => hfront z (List.mem_cons_of_mem y hz)
      simp [insertBy, hy, htail]

theorem insertBy_ascending (key : α → κ) (x : α) {ys : List α} (hys : Ascending key ys) :
    Ascending key (insertByKey key x ys) := by
  induction ys with
  | nil => exact List.pairwise_singleton _ _
  | cons y ys ih =>
      obtain ⟨hy, htail⟩ := List.pairwise_cons.mp hys
      unfold insertByKey insertBy
      split
      next hlt =>
        have hxy : key x < key y := of_decide_eq_true hlt
        refine List.pairwise_cons.mpr ⟨?_, hys⟩
        intro z hz
        rcases List.mem_cons.mp hz with rfl | hz
        · exact hxy.le
        · exact hxy.le.trans (hy z hz)
      next hlt =>
        have hyx : key y ≤ key x := not_lt.mp fun h => hlt (decide_eq_true h)
        refine List.pairwise_cons.mpr ⟨?_, ih htail⟩
        intro z hz
        rcases List.mem_cons.mp ((insertBy_perm _ x ys).mem_iff.mp hz) with rfl | hz
        · exact hyx
        · exact hy z hz

/-- Inserting items one after the other keeps them all and keeps the order. -/
theorem foldl_insertByKey (key : α → κ) (done xs : List α) (hdone : Ascending key done) :
    (xs.foldl (fun done x => insertByKey key x done) done).Perm (done ++ xs) ∧
      Ascending key (xs.foldl (fun done x => insertByKey key x done) done) := by
  induction xs generalizing done with
  | nil => simpa using hdone
  | cons x xs ih =>
      obtain ⟨hperm, hsorted⟩ := ih (insertByKey key x done) (insertBy_ascending key x hdone)
      refine ⟨hperm.trans ?_, hsorted⟩
      have hfront := (insertBy_perm (fun x y => decide (key x < key y)) x done).append_right xs
      exact hfront.trans List.perm_middle.symm

theorem sortByKey_perm (key : α → κ) (xs : List α) : (sortByKey key xs).Perm xs := by
  have hperm := (foldl_insertByKey key [] xs List.Pairwise.nil).1
  rwa [List.nil_append] at hperm

theorem sortByKey_ascending (key : α → κ) (xs : List α) : Ascending key (sortByKey key xs) :=
  (foldl_insertByKey key [] xs List.Pairwise.nil).2

/-! ## Binary search -/

/-- A place that splits sorted items: those before it are at most an item, those from it on are
greater. -/
def SplitsAt (key : α → κ) (x : α) (done : Array α) (place : Nat) : Prop :=
  place ≤ done.size ∧ (∀ y ∈ done.toList.take place, key y ≤ key x) ∧
    ∀ y ∈ done.toList.drop place, key x < key y

theorem SplitsAt.middle {key : α → κ} {x y : α} {done : Array α} {middle : Nat}
    (hsorted : Ascending key done.toList) (hget : done.toList[middle]? = some y) :
    (key x < key y → ∀ z ∈ done.toList.drop middle, key x < key z) ∧
      (key y ≤ key x → ∀ z ∈ done.toList.take (middle + 1), key z ≤ key x) := by
  have hsplit : done.toList = done.toList.take middle ++ y :: done.toList.drop (middle + 1) := by
    obtain ⟨hlt, rfl⟩ := List.getElem?_eq_some_iff.mp hget
    rw [← List.drop_eq_getElem_cons hlt, List.take_append_drop]
  have hdrop : done.toList.drop middle = y :: done.toList.drop (middle + 1) := by
    obtain ⟨hlt, rfl⟩ := List.getElem?_eq_some_iff.mp hget
    exact List.drop_eq_getElem_cons hlt
  have htake : done.toList.take (middle + 1) = done.toList.take middle ++ [y] := by
    obtain ⟨hlt, rfl⟩ := List.getElem?_eq_some_iff.mp hget
    exact List.take_succ_eq_append_getElem hlt
  have hpair := hsorted
  unfold Ascending at hpair
  rw [hsplit, List.pairwise_append, List.pairwise_cons] at hpair
  obtain ⟨_, ⟨hright, _⟩, hcross⟩ := hpair
  refine ⟨fun hlt z hz => ?_, fun hle z hz => ?_⟩
  · rw [hdrop] at hz
    rcases List.mem_cons.mp hz with rfl | hz
    · exact hlt
    · exact hlt.trans_le (hright z hz)
  · rw [htake] at hz
    rcases List.mem_append.mp hz with hz | hz
    · exact (hcross z hz y List.mem_cons_self).trans hle
    · rw [List.mem_singleton.mp hz]
      exact hle

/-- The search narrows the places between `first` and `last` until one is left. -/
theorem placeOf_splitsAt {less : α → α → Except ε Bool} {key : α → κ} {x : α} {done : Array α}
    (hless : ∀ y ∈ done.toList, less x y = .ok (decide (key x < key y)))
    (hsorted : Ascending key done.toList) (fuel first last : Nat) (hfuel : last < first + fuel)
    (horder : first ≤ last) (hlast : last ≤ done.size)
    (hfront : ∀ y ∈ done.toList.take first, key y ≤ key x)
    (hback : ∀ y ∈ done.toList.drop last, key x < key y) :
    ∃ place, placeOf less x done fuel first last = .ok place ∧ SplitsAt key x done place := by
  induction fuel generalizing first last with
  | zero => omega
  | succ fuel ih =>
      unfold placeOf
      by_cases hlt : first < last
      · have hmiddle : (first + last) / 2 < done.toList.length := by
          rw [Array.length_toList]
          omega
        obtain ⟨y, hy⟩ : ∃ y, done.toList[(first + last) / 2]? = some y :=
          ⟨_, List.getElem?_eq_getElem hmiddle⟩
        have hread : done[(first + last) / 2]? = some y := by
          rw [← Array.getElem?_toList]
          exact hy
        obtain ⟨habove, hbelow⟩ := SplitsAt.middle (x := x) hsorted hy
        have hcompare := hless y (List.mem_of_getElem? hy)
        -- either half keeps that everything outside of it is on the right side of `x`
        by_cases hkey : key x < key y
        · obtain ⟨place, hplace, hsplits⟩ := ih first ((first + last) / 2) (by omega) (by omega)
            (by omega) hfront (habove hkey)
          refine ⟨place, ?_, hsplits⟩
          simpa [hlt, hread, hcompare, hkey, bind, Except.bind] using hplace
        · obtain ⟨place, hplace, hsplits⟩ := ih ((first + last) / 2 + 1) last (by omega)
            (by omega) hlast (hbelow (not_lt.mp hkey)) hback
          refine ⟨place, ?_, hsplits⟩
          simpa [hlt, hread, hcompare, hkey, bind, Except.bind] using hplace
      · have heq : first = last := by omega
        subst heq
        exact ⟨first, by simp, hlast, hfront, hback⟩

/-- Where the comparison goes by keys, insertion by binary search is plain insertion. -/
theorem insertIfOrdered_eq {less : α → α → Except ε Bool} {key : α → κ} {x : α} {done : Array α}
    (hless : ∀ y ∈ done.toList, less x y = .ok (decide (key x < key y)))
    (hsorted : Ascending key done.toList) :
    insertIfOrdered less done x = .ok (insertByKey key x done.toList).toArray := by
  obtain ⟨place, hplace, -, hfront, hback⟩ := placeOf_splitsAt hless hsorted (done.size + 1) 0
    done.size (by omega) (Nat.zero_le _) le_rfl
    (fun y hy => by simp at hy) (fun y hy => by simp [← Array.length_toList] at hy)
  have hinsert : insertByKey key x done.toList =
      done.toList.take place ++ x :: done.toList.drop place := by
    conv_lhs => rw [← List.take_append_drop place done.toList]
    refine insertBy_append _ x _ _ ?_ ?_
    · exact fun y hy => decide_eq_false (not_lt.mpr (hfront y hy))
    · exact fun y hy => decide_eq_true (hback y hy)
  have harray : (done.extract 0 place).push x ++ done.extract place done.size =
      (done.toList.take place ++ x :: done.toList.drop place).toArray := by
    apply Array.toList_inj.mp
    have hrest : (done.toList.drop place).take (done.size - place) = done.toList.drop place :=
      List.take_of_length_le (by simp)
    simp [hrest]
  simp only [insertIfOrdered, hplace, hinsert, harray, bind, Except.bind, pure, Except.pure]

theorem foldlM_insertIfOrdered {less : α → α → Except ε Bool} {key : α → κ} (done : List α)
    (xs : List α) (hless : ComparesBy less key (done ++ xs)) (hsorted : Ascending key done) :
    xs.foldlM (insertIfOrdered less) done.toArray =
      .ok (xs.foldl (fun done x => insertByKey key x done) done).toArray := by
  induction xs generalizing done with
  | nil => rfl
  | cons x xs ih =>
      have hinsert : insertIfOrdered less done.toArray x = .ok (insertByKey key x done).toArray :=
        insertIfOrdered_eq (fun y hy => hless x (by simp) y (by simp_all)) hsorted
      have hperm := insertBy_perm (fun x y => decide (key x < key y)) x done
      have hnext : ComparesBy less key (insertByKey key x done ++ xs) := by
        apply hless.of_subset
        intro y hy
        rcases List.mem_append.mp hy with hy | hy
        · rcases List.mem_cons.mp (hperm.mem_iff.mp hy) with rfl | hy
          · simp
          · simp [hy]
        · simp [hy]
      rw [List.foldlM_cons, hinsert, List.foldl_cons]
      exact ih _ hnext (insertBy_ascending key x hsorted)

/-! ## Runs at the front -/

/-- A run goes on as long as each item compares with the one before it in the same way. -/
theorem takeRun_eq {less : α → α → Except ε Bool} {key : α → κ} (descending : Bool) (last : α)
    (xs : List α) (hless : ComparesBy less key (last :: xs)) :
    ∃ run rest, takeRun less descending last xs = .ok (run, rest) ∧ xs = run ++ rest ∧
      (last :: run).IsChain fun x y => decide (key y < key x) = descending := by
  induction xs generalizing last with
  | nil => exact ⟨[], [], rfl, rfl, List.IsChain.singleton _⟩
  | cons x xs ih =>
      have hcompare := hless x (by simp) last (by simp)
      by_cases hrun : decide (key x < key last) = descending
      · obtain ⟨run, rest, htake, hsplit, hchain⟩ :=
          ih x (hless.of_subset fun y hy => List.mem_cons_of_mem last hy)
        refine ⟨x :: run, rest, ?_, by rw [hsplit]; rfl, List.isChain_cons_cons.mpr ⟨hrun, hchain⟩⟩
        simp [takeRun, hcompare, hrun, htake, bind, Except.bind, pure, Except.pure]
      · refine ⟨[], x :: xs, ?_, rfl, List.IsChain.singleton _⟩
        simp [takeRun, hcompare, hrun, bind, Except.bind, pure, Except.pure]

/-- Inserting items that come in ascending order changes nothing. -/
theorem foldl_insertByKey_of_ascending (key : α → κ) (done xs : List α)
    (hsorted : Ascending key (done ++ xs)) :
    xs.foldl (fun done x => insertByKey key x done) done = done ++ xs := by
  induction xs generalizing done with
  | nil => simp
  | cons x xs ih =>
      have hcross : ∀ y ∈ done, key y ≤ key x := fun y hy =>
        (List.pairwise_append.mp hsorted).2.2 y hy x List.mem_cons_self
      have hinsert : insertByKey key x done = done ++ [x] := by
        have happend := insertBy_append (fun x y => decide (key x < key y)) x done []
          (fun y hy => decide_eq_false (not_lt.mpr (hcross y hy))) (by simp)
        rwa [List.append_nil] at happend
      rw [List.foldl_cons, hinsert, ih]
      · simp
      · simpa using hsorted

/-- Inserting items that come in strictly descending order turns them around. -/
theorem foldl_insertByKey_of_descending (key : α → κ) (done xs : List α)
    (hdescending : xs.Pairwise fun x y => key y < key x)
    (hcross : ∀ x ∈ xs, ∀ y ∈ done, key x < key y) :
    xs.foldl (fun done x => insertByKey key x done) done = xs.reverse ++ done := by
  induction xs generalizing done with
  | nil => rfl
  | cons x xs ih =>
      obtain ⟨hx, htail⟩ := List.pairwise_cons.mp hdescending
      have hinsert : insertByKey key x done = x :: done :=
        insertBy_append (fun x y => decide (key x < key y)) x [] done (by simp)
          (fun y hy => decide_eq_true (hcross x List.mem_cons_self y hy))
      rw [List.foldl_cons, hinsert, ih _ htail]
      · simp
      · intro z hz y hy
        rcases List.mem_cons.mp hy with rfl | hy
        · exact hx z hz
        · exact hcross z (List.mem_cons_of_mem x hz) y hy

/-- The first run is what insertion makes of the items in it. -/
theorem firstRun_eq {less : α → α → Except ε Bool} {key : α → κ} (xs : List α)
    (hless : ComparesBy less key xs) :
    ∃ front rest, firstRun less xs = .ok (sortByKey key front, rest) ∧ xs = front ++ rest := by
  match xs, hless with
  | [], _ => exact ⟨[], [], rfl, rfl⟩
  | [x], _ => exact ⟨[x], [], rfl, rfl⟩
  | x :: y :: zs, hless =>
      have hcompare := hless y (by simp) x (by simp)
      obtain ⟨run, rest, htake, hsplit, hchain⟩ := takeRun_eq (decide (key y < key x)) y zs
        (hless.of_subset fun z hz => List.mem_cons_of_mem x hz)
      have hwhole : (x :: y :: run).IsChain
          fun a b => decide (key b < key a) = decide (key y < key x) :=
        List.isChain_cons_cons.mpr ⟨rfl, hchain⟩
      have hfirst : firstRun less (x :: y :: zs) = .ok
          (if decide (key y < key x) then (x :: y :: run).reverse else x :: y :: run, rest) := by
        simp only [firstRun, hcompare, htake, bind, Except.bind, pure, Except.pure]
      refine ⟨x :: y :: run, rest, ?_, by rw [hsplit]; rfl⟩
      -- the first two items decide the direction of the whole run
      by_cases hkey : key y < key x
      · have hpairs : (x :: y :: run).Pairwise fun x y => key y < key x := by
          apply List.isChain_iff_pairwise.mp
          simpa [hkey] using hwhole
        have hsort := foldl_insertByKey_of_descending key [] _ hpairs (by simp)
        rw [hfirst, if_pos (decide_eq_true hkey), sortByKey, sortBy, hsort, List.append_nil]
      · have hpairs : Ascending key (x :: y :: run) := by
          apply List.isChain_iff_pairwise.mp
          simpa [hkey] using hwhole
        have hsort := foldl_insertByKey_of_ascending key [] _ hpairs
        rw [hfirst, if_neg (by simpa using hkey), sortByKey, sortBy, hsort, List.nil_append]

/-! ## Sorting -/

/-- Where the comparison goes by keys, sorting does not fail and is plain insertion sort. -/
theorem sortIfOrdered_eq {less : α → α → Except ε Bool} {key : α → κ} (xs : List α)
    (hless : ComparesBy less key xs) : sortIfOrdered less xs = .ok (sortByKey key xs) := by
  obtain ⟨front, rest, hrun, rfl⟩ := firstRun_eq xs hless
  have hsorted := sortByKey_ascending key front
  have hnext : ComparesBy less key (sortByKey key front ++ rest) := by
    apply hless.of_subset
    intro y hy
    rwa [List.mem_append, (sortByKey_perm key front).mem_iff, ← List.mem_append] at hy
  have hfold := foldlM_insertIfOrdered (sortByKey key front) rest hnext hsorted
  simp only [sortIfOrdered, hrun, bind, Except.bind, pure, Except.pure] at hfold ⊢
  rw [hfold]
  simp only [sortByKey, sortBy, List.foldl_append]

/-- Items with distinct keys have one ascending order. -/
theorem sortByKey_eq_of_perm (key : α → κ) {xs ys : List α} (hperm : xs.Perm ys)
    (hdistinct : (xs.map key).Nodup) : sortByKey key xs = sortByKey key ys := by
  have hsorts : (sortByKey key xs).Perm (sortByKey key ys) :=
    (sortByKey_perm key xs).trans (hperm.trans (sortByKey_perm key ys).symm)
  refine hsorts.eq_of_pairwise ?_ (sortByKey_ascending key xs) (sortByKey_ascending key ys)
  intro x y hx hy hxy hyx
  have hx := (sortByKey_perm key xs).mem_iff.mp hx
  have hy := hperm.mem_iff.mpr ((sortByKey_perm key ys).mem_iff.mp hy)
  exact List.inj_on_of_nodup_map hdistinct hx hy (le_antisymm hxy hyx)

theorem sortByKey_of_ascending (key : α → κ) {xs : List α} (hsorted : Ascending key xs) :
    sortByKey key xs = xs :=
  foldl_insertByKey_of_ascending key [] xs hsorted

/-- With distinct keys the ascending order is strict. -/
theorem sortByKey_strict (key : α → κ) {xs : List α} (hdistinct : (xs.map key).Nodup) :
    (sortByKey key xs).Pairwise fun x y => key x < key y := by
  have hnodup : ((sortByKey key xs).map key).Nodup :=
    ((sortByKey_perm key xs).map key).nodup_iff.mpr hdistinct
  have hne : (sortByKey key xs).Pairwise fun x y => key x ≠ key y := List.pairwise_map.mp hnodup
  refine ((sortByKey_ascending key xs).and hne).imp ?_
  intro x y h
  exact lt_of_le_of_ne h.1 h.2

theorem insertBy_map {β : Type} (less : β → β → Bool) (f : α → β) (x : α) (ys : List α) :
    insertBy less (f x) (ys.map f) = (insertBy (fun a b => less (f a) (f b)) x ys).map f := by
  induction ys with
  | nil => rfl
  | cons y ys ih =>
      rw [List.map_cons, insertBy, insertBy, ih]
      split <;> rfl

/-- Items that come from others can be sorted before. -/
theorem sortBy_map {β : Type} (less : β → β → Bool) (f : α → β) (xs : List α) :
    sortBy less (xs.map f) = (sortBy (fun a b => less (f a) (f b)) xs).map f := by
  have hfold : ∀ done : List α, (xs.map f).foldl (fun done x => insertBy less x done) (done.map f) =
      (xs.foldl (fun done x => insertBy (fun a b => less (f a) (f b)) x done) done).map f := by
    induction xs with
    | nil => exact fun done => rfl
    | cons x xs ih =>
        intro done
        rw [List.map_cons, List.foldl_cons, List.foldl_cons, insertBy_map, ih]
  exact hfold []

/-! ## Sorting by any comparison -/

theorem takeRun_append {less : α → α → Except ε Bool} {descending : Bool} {last : α}
    {xs run rest : List α} (h : takeRun less descending last xs = .ok (run, rest)) :
    run ++ rest = xs := by
  induction xs generalizing last run with
  | nil =>
      cases h
      rfl
  | cons x xs ih =>
      obtain ⟨lt, -, h⟩ := Attempt.of_bind_eq_ok h
      split at h
      next =>
        obtain ⟨⟨more, others⟩, hmore, h⟩ := Attempt.of_bind_eq_ok h
        cases h
        rw [List.cons_append, ih hmore]
      next =>
        cases h
        rfl

theorem firstRun_perm {less : α → α → Except ε Bool} {xs run rest : List α}
    (h : firstRun less xs = .ok (run, rest)) : (run ++ rest).Perm xs := by
  match xs, h with
  | [], h =>
      cases h
      exact List.Perm.refl _
  | [x], h =>
      cases h
      exact List.Perm.refl _
  | x :: y :: zs, h =>
      obtain ⟨descending, -, h⟩ := Attempt.of_bind_eq_ok h
      obtain ⟨⟨more, others⟩, hmore, h⟩ := Attempt.of_bind_eq_ok h
      cases h
      rw [← takeRun_append hmore]
      cases descending with
      | false => exact List.Perm.refl _
      | true => exact (List.reverse_perm (x :: y :: more)).append_right _

theorem insertIfOrdered_perm {less : α → α → Except ε Bool} {done next : Array α} {x : α}
    (h : insertIfOrdered less done x = .ok next) : next.toList.Perm (x :: done.toList) := by
  obtain ⟨place, -, h⟩ := Attempt.of_bind_eq_ok h
  cases h
  have hrest : (done.toList.drop place).take (done.size - place) = done.toList.drop place :=
    List.take_of_length_le (by simp)
  have hmiddle : (done.toList.take place ++ x :: done.toList.drop place).Perm
      (x :: (done.toList.take place ++ done.toList.drop place)) := List.perm_middle
  simpa [hrest] using hmiddle

theorem foldlM_insertIfOrdered_perm {less : α → α → Except ε Bool} {done sorted : Array α}
    {xs : List α} (h : xs.foldlM (insertIfOrdered less) done = .ok sorted) :
    sorted.toList.Perm (done.toList ++ xs) := by
  induction xs generalizing done with
  | nil =>
      cases h
      simp
  | cons x xs ih =>
      rw [List.foldlM_cons] at h
      obtain ⟨next, hnext, h⟩ := Attempt.of_bind_eq_ok h
      have hmiddle : (next.toList ++ xs).Perm (done.toList ++ x :: xs) :=
        ((insertIfOrdered_perm hnext).append_right xs).trans List.perm_middle.symm
      exact (ih h).trans hmiddle

/-- Whatever the comparison, sorting loses nothing and adds nothing. -/
theorem sortIfOrdered_perm {less : α → α → Except ε Bool} {xs ys : List α}
    (h : sortIfOrdered less xs = .ok ys) : ys.Perm xs := by
  obtain ⟨⟨run, rest⟩, hrun, h⟩ := Attempt.of_bind_eq_ok h
  obtain ⟨sorted, hsorted, h⟩ := Attempt.of_bind_eq_ok h
  cases h
  exact (foldlM_insertIfOrdered_perm hsorted).trans (firstRun_perm hrun)

/-! ## Stability -/

/-- An inserted item comes behind those with its key; those with another key stay as they are. -/
theorem filter_insertByKey (key : α → κ) (k : κ) (x : α) {ys : List α} (hys : Ascending key ys) :
    (insertByKey key x ys).filter (fun y => key y = k) = (ys ++ [x]).filter fun y => key y = k := by
  induction ys with
  | nil => rfl
  | cons y ys ih =>
      obtain ⟨hy, htail⟩ := List.pairwise_cons.mp hys
      unfold insertByKey insertBy
      split
      next hlt =>
        have hlt : key x < key y := of_decide_eq_true hlt
        by_cases hk : key x = k
        · -- everything behind the item is greater
          have hnone : (y :: ys).filter (fun y => decide (key y = k)) = [] := by
            refine List.filter_eq_nil_iff.mpr fun z hz => ?_
            have hxz : key x < key z := by
              rcases List.mem_cons.mp hz with rfl | hz
              · exact hlt
              · exact hlt.trans_le (hy z hz)
            simpa [← hk] using hxz.ne'
          rw [List.filter_append, hnone, List.filter_cons_of_pos (by simpa using hk), hnone]
          simp [hk]
        · rw [List.filter_cons_of_neg (by simpa using hk), List.filter_append]
          simp [hk]
      next =>
        rw [List.cons_append, List.filter_cons, List.filter_cons, ih htail]

theorem filter_foldl_insertByKey (key : α → κ) (k : κ) (done xs : List α)
    (hdone : Ascending key done) :
    (xs.foldl (fun done x => insertByKey key x done) done).filter (fun y => key y = k) =
      (done ++ xs).filter fun y => key y = k := by
  induction xs generalizing done with
  | nil => simp
  | cons x xs ih =>
      rw [List.foldl_cons, ih _ (insertBy_ascending key x hdone), List.filter_append,
        filter_insertByKey key k x hdone, ← List.filter_append]
      simp

/-- Sorted items with equal keys are in the order in which they came. -/
theorem filter_sortByKey (key : α → κ) (k : κ) (xs : List α) :
    (sortByKey key xs).filter (fun y => key y = k) = xs.filter fun y => key y = k :=
  filter_foldl_insertByKey key k [] xs List.Pairwise.nil

theorem mem_of_filter {key : α → κ} {xs ys : List α}
    (h : ∀ k, xs.filter (fun x => key x = k) = ys.filter fun x => key x = k) {x : α}
    (hx : x ∈ xs) : x ∈ ys := by
  have hx : x ∈ xs.filter fun y => key y = key x := List.mem_filter.mpr ⟨hx, by simp⟩
  rw [h] at hx
  exact (List.mem_filter.mp hx).1

theorem Ascending.head_le {key : α → κ} {x y : α} {xs : List α} (h : Ascending key (x :: xs))
    (hy : y ∈ x :: xs) : key x ≤ key y := by
  rcases List.mem_cons.mp hy with rfl | hy
  · exact le_rfl
  · exact (List.pairwise_cons.mp h).1 y hy

/-- Items in ascending order are given by those with each key. -/
theorem Ascending.eq_of_filter {key : α → κ} {xs ys : List α} (hxs : Ascending key xs)
    (hys : Ascending key ys)
    (h : ∀ k, xs.filter (fun x => key x = k) = ys.filter fun x => key x = k) : xs = ys := by
  induction xs generalizing ys with
  | nil =>
      refine (List.eq_nil_iff_forall_not_mem.mpr fun y hy => ?_).symm
      exact List.not_mem_nil (mem_of_filter (fun k => (h k).symm) hy)
  | cons x xs ih =>
      cases ys with
      | nil => exact absurd (mem_of_filter h List.mem_cons_self) List.not_mem_nil
      | cons y ys =>
          -- both first items have the least key, so they are the first ones with it
          have hkey : key x = key y := le_antisymm
            (hxs.head_le (mem_of_filter (fun k => (h k).symm) List.mem_cons_self))
            (hys.head_le (mem_of_filter h List.mem_cons_self))
          have hheads := h (key x)
          rw [List.filter_cons_of_pos (by simp), List.filter_cons_of_pos (by simp [hkey])] at hheads
          obtain ⟨rfl, -⟩ := List.cons.inj hheads
          refine congrArg (x :: ·) (ih hxs.of_cons hys.of_cons fun k => ?_)
          have hk := h k
          by_cases hxk : key x = k <;> simpa [hxk] using hk

/-- Sorting by keys is stable sorting. -/
theorem sortByKey_eq_mergeSort (key : α → κ) (xs : List α) :
    sortByKey key xs = xs.mergeSort fun x y => key x ≤ key y := by
  have htrans : ∀ x y z : α, decide (key x ≤ key y) = true → decide (key y ≤ key z) = true →
      decide (key x ≤ key z) = true := by
    intro x y z hxy hyz
    exact decide_eq_true ((of_decide_eq_true hxy).trans (of_decide_eq_true hyz))
  have htotal : ∀ x y : α, (decide (key x ≤ key y) || decide (key y ≤ key x)) = true := by
    intro x y
    simpa using le_total (key x) (key y)
  have hsorted : Ascending key (xs.mergeSort fun x y => key x ≤ key y) :=
    (List.pairwise_mergeSort htrans htotal xs).imp of_decide_eq_true
  refine (sortByKey_ascending key xs).eq_of_filter hsorted fun k => ?_
  rw [filter_sortByKey]
  -- the items with one key are a part of what is sorted, and no others are added
  have hequal : (xs.filter fun x => decide (key x = k)).Pairwise
      fun x y => decide (key x ≤ key y) = true := by
    refine List.pairwise_of_forall_mem_list fun x hx y hy => ?_
    have hx := of_decide_eq_true (List.mem_filter.mp hx).2
    have hy := of_decide_eq_true (List.mem_filter.mp hy).2
    simp [hx, hy]
  have hpart := List.sublist_mergeSort htrans htotal hequal List.filter_sublist
  have hpart := hpart.filter fun x => decide (key x = k)
  rw [List.filter_filter] at hpart
  simp only [Bool.and_self] at hpart
  exact hpart.eq_of_length ((List.mergeSort_perm xs _).filter _).length_eq.symm

end Assay.Value
