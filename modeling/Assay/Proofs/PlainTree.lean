import Assay.File.Tree
import Assay.Logged
import Mathlib.Data.List.Basic

/-! # Plain trees

In a tree without links a path leads where its names say, one after the other, if it leads anywhere.
So it is resolved by its names alone. In a tree that is clear besides, where nothing is closed or has a
name that is too long, it leads to the same place from where it resolves to, and files that are added
do not change where the other paths lead. A file that cannot be read is refused by the system, but for
paths that no file can have and bytes that are no text.
-/

namespace Assay.FileTree

variable {π : Type}

/-- Whether a name has no special meaning. -/
def isPlainName (name : String) : Bool := name != ".." && !name.toList.contains '\x00'

/-- A tree without links and with plain names only. -/
structure Plain (t : FileTree π) : Prop where
  noLink : ∀ place target, t.entry? place ≠ some (.link target)
  names : ∀ place e, t.entry? place = some e → ∀ name ∈ place, isPlainName name = true

/-- A plain tree in which every place can be looked up: no directory is closed, and neither a name nor
a path has too many bytes. -/
structure Clear (t : FileTree π) : Prop extends t.Plain where
  isOpen : t.closedPlaces = []
  short : ∀ place e, t.entry? place = some e → ∀ name ∈ place, name.utf8ByteSize ≤ longestName
  fits : ∀ place e, t.entry? place = some e →
    Path.isTooLong { root := .slash, parts := place } = false

variable {t more : FileTree π}

theorem entry?_of_ne_nil {place : List String} (hplace : place ≠ []) :
    t.entry? place = (t.entries.find? fun e => e.1 = place).map (·.2) := by
  simp [FileTree.entry?, hplace]

theorem mem_entries_of_eq_some {place : List String} {e : Entry π} (hplace : place ≠ [])
    (h : t.entry? place = some e) : (place, e) ∈ t.entries := by
  rw [entry?_of_ne_nil hplace] at h
  obtain ⟨⟨q, found⟩, hfound, rfl⟩ := Option.map_eq_some_iff.mp h
  have hq : q = place := by simpa using List.find?_some hfound
  exact hq ▸ List.mem_of_find?_eq_some hfound

theorem entry?_isSome_iff {place : List String} (hplace : place ≠ []) :
    (t.entry? place).isSome ↔ ∃ e, (place, e) ∈ t.entries := by
  constructor
  · intro h
    obtain ⟨e, he⟩ := Option.isSome_iff_exists.mp h
    exact ⟨e, mem_entries_of_eq_some hplace he⟩
  · rintro ⟨e, hmem⟩
    rw [entry?_of_ne_nil hplace, Option.isSome_map, List.find?_isSome]
    exact ⟨(place, e), hmem, decide_eq_true rfl⟩

/-- It is enough to look at what is listed. -/
theorem Plain.of_entries (hlinks : ∀ e ∈ t.entries, ∀ target, e.2 ≠ .link target)
    (hnames : ∀ e ∈ t.entries, e.1.all isPlainName = true) : t.Plain := by
  constructor
  · intro place target h
    by_cases hplace : place = []
    · subst hplace
      cases h
    · exact hlinks _ (mem_entries_of_eq_some hplace h) target rfl
  · intro place e h
    by_cases hplace : place = []
    · simp [hplace]
    · exact List.all_eq_true.mp (hnames _ (mem_entries_of_eq_some hplace h))

theorem Clear.isClosed_eq_false (h : t.Clear) (place : List String) :
    t.isClosed place = false := by simp [isClosed, h.isOpen]

/-- Whether a place has plain names and can be looked up. -/
def isClearPlace (place : List String) : Bool :=
  place.all (fun name => isPlainName name && name.utf8ByteSize ≤ longestName) &&
    !Path.isTooLong { root := .slash, parts := place }

theorem isClearPlace_iff {place : List String} : isClearPlace place = true ↔
    (∀ name ∈ place, isPlainName name = true) ∧
      (∀ name ∈ place, name.utf8ByteSize ≤ longestName) ∧
        Path.isTooLong { root := .slash, parts := place } = false := by
  simp only [isClearPlace, Bool.and_eq_true, List.all_eq_true, decide_eq_true_eq, Bool.not_eq_true',
    forall_and, and_assoc]

theorem Clear.of_entries (hlinks : ∀ e ∈ t.entries, ∀ target, e.2 ≠ .link target)
    (hplaces : ∀ e ∈ t.entries, isClearPlace e.1 = true) (hopen : t.closedPlaces = []) :
    t.Clear := by
  have hclear : ∀ place e, t.entry? place = some e → isClearPlace place = true := by
    intro place e h
    by_cases hplace : place = []
    · subst hplace
      decide +kernel
    · exact hplaces _ (mem_entries_of_eq_some hplace h)
  exact
    { noLink := (Plain.of_entries hlinks fun e he =>
        List.all_eq_true.mpr (isClearPlace_iff.mp (hplaces e he)).1).noLink
      names := fun place e h => (isClearPlace_iff.mp (hclear place e h)).1
      isOpen := hopen
      short := fun place e h => (isClearPlace_iff.mp (hclear place e h)).2.1
      fits := fun place e h => (isClearPlace_iff.mp (hclear place e h)).2.2 }

/-! ## Walking -/

/-- Go from a place along names. -/
def walk (t : FileTree π) : List String → List String → Option (List String)
  | place, [] => some place
  | place, name :: rest =>
      match t.entry? place with
      | some .directory =>
          if name = ".." then walk t place.dropLast rest
          else if (t.entry? (place ++ [name])).isSome then walk t (place ++ [name]) rest
          else none
      | _ => none

/-- Go from a place along names without looking at the tree. -/
def climb (place rest : List String) : List String :=
  rest.foldl (fun done name => if name == ".." then done.dropLast else done ++ [name]) place

theorem walk_append (place front back : List String) :
    t.walk place (front ++ back) = (t.walk place front).bind fun q => t.walk q back := by
  induction front generalizing place with
  | nil => rfl
  | cons name front ih =>
      simp only [List.cons_append, walk, ih]
      cases t.entry? place with
      | none => rfl
      | some e =>
          cases e with
          | directory =>
              simp only
              split
              next => rfl
              next =>
                split <;> rfl
          | file | link => rfl

theorem climb_cons_of_ne {place rest : List String} {name : String} (h : name ≠ "..") :
    climb place (name :: rest) = climb (place ++ [name]) rest := by
  simp [climb, h]

theorem climb_eq_append {place rest : List String} (h : ".." ∉ rest) :
    climb place rest = place ++ rest := by
  induction rest generalizing place with
  | nil => simp [climb]
  | cons name rest ih =>
      rw [List.mem_cons, not_or] at h
      rw [climb_cons_of_ne (Ne.symm h.1), ih h.2, List.append_assoc]
      rfl

theorem up_not_mem_climb {place rest : List String} (h : ".." ∉ place) :
    ".." ∉ climb place rest := by
  induction rest generalizing place with
  | nil => exact h
  | cons name rest ih =>
      by_cases hname : name = ".."
      · subst hname
        exact ih fun hmem => h ((List.dropLast_sublist place).subset hmem)
      · rw [climb_cons_of_ne hname]
        exact ih (by simp [h, Ne.symm hname])

/-- A step of a walk starts in a directory; it goes up, or to a name that is there. -/
theorem of_walk_cons {place rest q : List String} {name : String}
    (h : t.walk place (name :: rest) = some q) :
    t.entry? place = some .directory ∧
      (name = ".." ∧ t.walk place.dropLast rest = some q ∨
        name ≠ ".." ∧ (t.entry? (place ++ [name])).isSome ∧
          t.walk (place ++ [name]) rest = some q) := by
  unfold walk at h
  split at h
  next hplace =>
    refine ⟨hplace, ?_⟩
    split at h
    next hname => exact .inl ⟨hname, h⟩
    next hname =>
      split at h
      next hnext => exact .inr ⟨hname, hnext, h⟩
      next => cases h
  next => cases h

theorem walk_eq_climb {place rest q : List String} (h : t.walk place rest = some q) :
    q = climb place rest := by
  induction rest generalizing place with
  | nil => exact (Option.some.inj h).symm
  | cons name rest ih =>
      obtain ⟨_, ⟨rfl, hrest⟩ | ⟨hname, _, hrest⟩⟩ := of_walk_cons h
      · exact ih hrest
      · rw [climb_cons_of_ne hname]
        exact ih hrest

theorem walk_singleton {place : List String} {name : String}
    (hplace : t.entry? place = some .directory) (hname : name ≠ "..")
    (hnext : (t.entry? (place ++ [name])).isSome) :
    t.walk place [name] = some (place ++ [name]) := by
  simp [walk, hplace, hname, hnext]

/-- A walk starts at something if it ends at something. -/
theorem start_isSome {place rest q : List String} (hwalk : t.walk place rest = some q)
    (hentry : (t.entry? q).isSome) : (t.entry? place).isSome := by
  cases rest with
  | nil =>
      cases hwalk
      exact hentry
  | cons name rest =>
      rw [(of_walk_cons hwalk).1]
      rfl

namespace Plain

theorem up_not_mem (h : t.Plain) {place : List String} {e : Entry π}
    (he : t.entry? place = some e) : ".." ∉ place := by
  intro hmem
  have hplain := h.names place e he ".." hmem
  simp [isPlainName] at hplain

/-- The way to what stands at a place leads through what is in front of it. -/
theorem walk_front (h : t.Plain) {front back : List String} {e : Entry π}
    (hwalk : t.walk [] (front ++ back) = some (front ++ back))
    (he : t.entry? (front ++ back) = some e) :
    t.walk [] front = some front ∧ t.walk front back = some (front ++ back) := by
  rw [walk_append] at hwalk
  obtain ⟨q, hq, hback⟩ := Option.bind_eq_some_iff.mp hwalk
  have hup : ".." ∉ front := fun hmem => h.up_not_mem he (List.mem_append_left back hmem)
  obtain rfl : q = front := by simpa [climb_eq_append hup] using walk_eq_climb hq
  exact ⟨hq, hback⟩

/-- Where a walk from the root ends, its end leads to as well. -/
theorem walk_end (h : t.Plain) {place rest q : List String}
    (hplace : t.walk [] place = some place) (hq : t.walk place rest = some q) :
    t.walk [] q = some q := by
  induction rest generalizing place with
  | nil =>
      cases hq
      exact hplace
  | cons name rest ih =>
      obtain ⟨hdirectory, ⟨rfl, hrest⟩ | ⟨hname, hnext, hrest⟩⟩ := of_walk_cons hq
      · refine ih ?_ hrest
        -- the way to the last name is the way to where it is
        rcases List.eq_nil_or_concat place with rfl | ⟨front, last, rfl⟩
        · rfl
        · rw [List.concat_eq_append] at *
          rw [List.dropLast_concat]
          exact (h.walk_front hplace hdirectory).1
      · refine ih ?_ hrest
        rw [walk_append, hplace]
        exact walk_singleton hdirectory hname hnext

/-! ## Following -/

/-- A path that is followed is walked. -/
theorem walk_of_follow (h : t.Plain) {fuel links : Nat} {place rest q : List String}
    (hq : t.follow fuel links place rest = .ok q) : t.walk place rest = some q := by
  induction fuel generalizing links place rest with
  | zero => cases hq
  | succ fuel ih =>
      cases rest with
      | nil =>
          cases hq
          rfl
      | cons name rest =>
          obtain hplace | hplace := em (t.entry? place = some .directory)
          · simp only [follow, hplace] at hq
            simp only [walk, hplace]
            split at hq
            next => cases hq
            next =>
              split at hq
              next hup => simpa [beq_iff_eq.mp hup] using ih hq
              next hup =>
                rw [if_neg (by simpa using hup)]
                split at hq
                next => cases hq
                next =>
                  split at hq
                  next => cases hq
                  next target htarget => exact absurd htarget (h.noLink _ target)
                  next hnext => simpa [hnext] using ih hq
          · unfold follow at hq
            split at hq
            next hdirectory => exact absurd hdirectory hplace
            next => cases hq

theorem follow_ne_tooManyLinks (h : t.Plain) {fuel links : Nat} {place rest : List String}
    (hfuel : rest.length < fuel) : t.follow fuel links place rest ≠ .error .tooManyLinks := by
  induction rest generalizing fuel place with
  | nil =>
      obtain ⟨fuel, rfl⟩ : ∃ n, fuel = n + 1 := ⟨fuel - 1, by omega⟩
      simp [follow]
  | cons name rest ih =>
      obtain ⟨fuel, rfl⟩ : ∃ n, fuel = n + 1 := ⟨fuel - 1, by omega⟩
      have hrest : rest.length < fuel := Nat.lt_of_succ_lt_succ hfuel
      unfold follow
      split
      next =>
        split
        next => simp
        next =>
          split
          next => exact ih hrest
          next =>
            split
            next => simp
            next =>
              simp only
              split
              next => simp
              next target htarget => exact absurd htarget (h.noLink _ target)
              next => exact ih hrest
      next => simp

end Plain

/-- What is walked in a clear tree is followed. -/
theorem Clear.follow_of_walk (h : t.Clear) (links : Nat) {fuel : Nat}
    {place rest q : List String} (hfuel : rest.length < fuel)
    (hwalk : t.walk place rest = some q) : t.follow fuel links place rest = .ok q := by
  induction rest generalizing fuel place with
  | nil =>
      obtain ⟨fuel, rfl⟩ : ∃ n, fuel = n + 1 := ⟨fuel - 1, by omega⟩
      cases hwalk
      rfl
  | cons name rest ih =>
      obtain ⟨fuel, rfl⟩ : ∃ n, fuel = n + 1 := ⟨fuel - 1, by omega⟩
      have hrest : rest.length < fuel := Nat.lt_of_succ_lt_succ hfuel
      have hclosed := h.isClosed_eq_false place
      obtain ⟨hplace, ⟨rfl, hup⟩ | ⟨hname, hnext, hdown⟩⟩ := of_walk_cons hwalk
      · simpa [follow, hplace, hclosed] using ih hrest hup
      · obtain ⟨e, he⟩ := Option.isSome_iff_exists.mp hnext
        have hshort := Nat.not_lt.mpr (h.short _ e he name (by simp))
        have hstep := ih hrest hdown
        cases e with
        | link target => exact absurd he (h.noLink _ target)
        | file | directory => simpa [follow, hplace, hclosed, hname, hshort, he] using hstep

/-! ## Locating -/

theorem le_foldl_max {n : Nat} {sizes : List Nat} (hn : n ∈ sizes) (start : Nat) :
    n ≤ sizes.foldl max start := by
  have hstart : ∀ (sizes : List Nat) (start : Nat), start ≤ sizes.foldl max start := by
    intro sizes
    induction sizes with
    | nil => exact fun start => Nat.le_refl start
    | cons size sizes ih => exact fun start => Nat.le_trans (Nat.le_max_left start size) (ih _)
  induction sizes generalizing start with
  | nil => exact absurd hn List.not_mem_nil
  | cons size sizes ih =>
      rcases List.mem_cons.mp hn with rfl | hn
      · exact Nat.le_trans (Nat.le_max_right start n) (hstart sizes _)
      · exact ih hn _

/-- Whether a path has a character that no path may have. -/
def hasNul (p : Path) : Bool := p.parts.any fun part => part.toList.contains '\x00'

theorem locate_of_hasNul {p : Path} (hp : hasNul p = true) :
    t.locate p = .error .nulCharacter := by
  unfold hasNul at hp
  unfold locate
  rw [hp]
  rfl

theorem locate_of_isTooLong {p : Path} (hp : hasNul p = false) (hlong : p.isTooLong = true) :
    t.locate p = .error .tooLong := by
  unfold hasNul at hp
  unfold locate
  rw [hp, hlong]
  rfl

/-- There is always enough fuel to follow a path to its end. -/
theorem locate_of_not_hasNul {p : Path} (hp : hasNul p = false) (hlong : p.isTooLong = false) :
    ∃ fuel, (t.absolute p).parts.length < fuel ∧
      t.locate p = t.follow fuel maxLinks [] (t.absolute p).parts >>= fun q =>
        match t.entry? q with
        | some e => .ok (q, e)
        | none => .error .missing := by
  unfold hasNul at hp
  refine ⟨_, ?_, by simp only [locate, hp, hlong]; rfl⟩
  omega

/-- A path that leads somewhere is one that the system takes, and is followed to its end. -/
theorem of_locate {p : Path} {place : List String} {e : Entry π}
    (h : t.locate p = .ok (place, e)) : hasNul p = false ∧ p.isTooLong = false ∧
      t.entry? place = some e ∧
        ∃ fuel, t.follow fuel maxLinks [] (t.absolute p).parts = .ok place := by
  cases hp : hasNul p with
  | true => cases (locate_of_hasNul hp).symm.trans h
  | false =>
      cases hlong : p.isTooLong with
      | true => cases (locate_of_isTooLong hp hlong).symm.trans h
      | false =>
          obtain ⟨fuel, -, hlocate⟩ := locate_of_not_hasNul (t := t) hp hlong
          obtain ⟨q, hfollow, hentry⟩ := Attempt.of_bind_eq_ok (hlocate.symm.trans h)
          split at hentry
          next other hq =>
            cases hentry
            exact ⟨rfl, rfl, hq, fuel, hfollow⟩
          next => cases hentry

/-- Where a path leads is told by the places that it is followed to. -/
theorem locate_eq_error {p : Path} {f : PathFault} (h : t.locate p = .error f) :
    f = .nulCharacter ∧ hasNul p = true ∨ f = .tooLong ∨ f = .missing ∨
      ∃ fuel, (t.absolute p).parts.length < fuel ∧ p.isTooLong = false ∧
        t.follow fuel maxLinks [] (t.absolute p).parts = .error f := by
  cases hp : hasNul p with
  | true =>
      cases (locate_of_hasNul hp).symm.trans h
      exact .inl ⟨rfl, rfl⟩
  | false =>
      cases hlong : p.isTooLong with
      | true =>
          cases (locate_of_isTooLong hp hlong).symm.trans h
          exact .inr (.inl rfl)
      | false =>
          obtain ⟨fuel, hfuel, hlocate⟩ := locate_of_not_hasNul (t := t) hp hlong
          rcases Attempt.of_bind_eq_error (hlocate.symm.trans h) with hfollow | ⟨q, -, hq⟩
          · exact .inr (.inr (.inr ⟨fuel, hfuel, rfl, hfollow⟩))
          · split at hq <;> cases hq
            exact .inr (.inr (.inl rfl))

theorem Plain.locate_ne_tooManyLinks (h : t.Plain) (p : Path) :
    t.locate p ≠ .error .tooManyLinks := by
  intro hp
  obtain ⟨⟨⟩, -⟩ | ⟨⟨⟩⟩ | ⟨⟨⟩⟩ | ⟨fuel, hfuel, -, hfollow⟩ := locate_eq_error hp
  exact h.follow_ne_tooManyLinks hfuel hfollow

/-- A path leads where a walk from the root along its names ends. -/
theorem Plain.walk_of_locate (h : t.Plain) {p : Path} {place : List String} {e : Entry π}
    (hp : t.locate p = .ok (place, e)) :
    t.walk [] (t.absolute p).parts = some place ∧ t.entry? place = some e := by
  obtain ⟨-, -, hentry, fuel, hfollow⟩ := of_locate hp
  exact ⟨h.walk_of_follow hfollow, hentry⟩

theorem Clear.locate_eq_ok_iff (h : t.Clear) {p : Path} {place : List String} {e : Entry π} :
    t.locate p = .ok (place, e) ↔ hasNul p = false ∧ p.isTooLong = false ∧
      t.walk [] (t.absolute p).parts = some place ∧ t.entry? place = some e := by
  constructor
  · intro hp
    obtain ⟨hnul, hlong, -⟩ := of_locate hp
    exact ⟨hnul, hlong, h.walk_of_locate hp⟩
  · rintro ⟨hnul, hlong, hwalk, hentry⟩
    obtain ⟨fuel, hfuel, hlocate⟩ := locate_of_not_hasNul (t := t) hnul hlong
    rw [hlocate, h.follow_of_walk maxLinks hfuel hwalk]
    simp [bind, Except.bind, hentry]

namespace Plain

/-! ## Resolving -/

theorem shown?_ne_link (h : t.Plain) (place : List String) (target : String) :
    t.shown? place ≠ some (.link target) := by
  unfold shown?
  split
  · simp
  · exact h.noLink place target

theorem resolveNames_eq (h : t.Plain) {fuel : Nat} {seen : Trail} {place rest : List String}
    (hfuel : rest.length < fuel) :
    t.resolveNames fuel seen place rest = (climb place rest, true, seen) := by
  induction rest generalizing fuel place with
  | nil =>
      cases fuel with
      | zero => exact absurd hfuel (Nat.not_lt_zero _)
      | succ fuel => rfl
  | cons name rest ih =>
      cases fuel with
      | zero => exact absurd hfuel (Nat.not_lt_zero _)
      | succ fuel =>
          have hrest : rest.length < fuel := Nat.lt_of_succ_lt_succ hfuel
          unfold resolveNames
          by_cases hname : name = ".."
          · subst hname
            exact ih hrest
          · rw [climb_cons_of_ne hname]
            simp only [beq_eq_false_iff_ne.mpr hname, Bool.false_eq_true, if_false]
            split
            next target htarget => exact absurd htarget (h.shown?_ne_link _ target)
            next => exact ih hrest

theorem le_foldl_add (n : Nat) (sizes : List Nat) : n ≤ sizes.foldl (· + ·) n := by
  induction sizes generalizing n with
  | nil => exact Nat.le_refl n
  | cons size sizes ih => exact Nat.le_trans (Nat.le_add_right n size) (ih _)

theorem lexical_climb (parts : List String) : lexical (climb [] parts) = climb [] parts :=
  climb_eq_append (up_not_mem_climb List.not_mem_nil)

/-- A path is resolved by its names. -/
theorem resolve_eq (h : t.Plain) {p : Path} (hp : hasNul p = false) :
    t.resolve p = .ok { root := .slash, parts := climb [] (t.absolute p).parts } := by
  unfold hasNul at hp
  simp only [resolve, hp, Bool.false_eq_true, if_false]
  rw [h.resolveNames_eq]
  · rw [lexical_climb]
    split
    next hloop => exact absurd hloop (h.locate_ne_tooManyLinks _)
    next => rfl
  · calc (t.absolute p).parts.length < ((t.absolute p).parts.length + 2) * 2 := by omega
      _ ≤ _ := Nat.mul_le_mul_right 2 (le_foldl_add _ _)

theorem resolve_of_locate (h : t.Plain) {p : Path} {place : List String} {e : Entry π}
    (hp : t.locate p = .ok (place, e)) :
    t.resolve p = .ok { root := .slash, parts := place } := by
  rw [h.resolve_eq (of_locate hp).1, ← walk_eq_climb (h.walk_of_locate hp).1]

end Plain

/-- What a path leads to, the path that it resolves to leads to as well. -/
theorem Clear.locate_resolved (h : t.Clear) {p : Path} {place : List String} {e : Entry π}
    (hp : t.locate p = .ok (place, e)) :
    t.locate { root := .slash, parts := place } = .ok (place, e) := by
  obtain ⟨-, -, hwalk, hentry⟩ := h.locate_eq_ok_iff.mp hp
  refine h.locate_eq_ok_iff.mpr ⟨?_, h.fits place e hentry, h.walk_end rfl hwalk, hentry⟩
  have hnames := h.names place e hentry
  refine List.any_eq_false.mpr fun name hname => ?_
  have hplain := hnames name hname
  simp only [isPlainName, Bool.and_eq_true, Bool.not_eq_true'] at hplain
  rw [hplain.2]
  exact Bool.false_ne_true

/-! ## Reading -/

theorem follow_ne_nulCharacter {fuel links : Nat} {place rest : List String} :
    t.follow fuel links place rest ≠ .error .nulCharacter := by
  induction fuel generalizing links place rest with
  | zero => simp [follow]
  | succ fuel ih =>
      cases rest with
      | nil => simp [follow]
      | cons name rest =>
          unfold follow
          split
          next =>
            split
            next => simp
            next =>
              split
              next => exact ih
              next =>
                split
                next => simp
                next =>
                  simp only
                  split
                  next => simp
                  next => cases links <;> simp [ih]
                  next => exact ih
          next => simp

/-- What is wrong with a path that can be there is for the system to say. -/
theorem isSystemFailure_faultOf {p : Path} {fault : PathFault} (hp : hasNul p = false)
    (h : t.locate p = .error fault) (text : String) : (faultOf fault text).isSystemFailure := by
  have hfault : fault ≠ .nulCharacter := by
    rintro rfl
    obtain ⟨-, hnul⟩ | ⟨⟨⟩⟩ | ⟨⟨⟩⟩ | ⟨fuel, -, -, hfollow⟩ := locate_eq_error h
    · cases hp.symm.trans hnul
    · exact follow_ne_nulCharacter hfollow
  cases fault with
  | nulCharacter => exact absurd rfl hfault
  | missing | notDirectory | tooManyLinks | tooLong | denied =>
      simp [faultOf, deniedFault, Failure.system, Failure.isSystemFailure]

/-- A look that is refused says why nobody knows what is there. -/
theorem look_error {p : Path} {f : Failure} (h : t.look p = .error f) :
    ∃ fault : PathFault, fault.isAbsence = false ∧ t.locate p = .error fault ∧
      f = faultOf fault p.toString := by
  unfold look at h
  split at h
  next => cases h
  next fault hlocate =>
    split at h
    next => cases h
    next habsence =>
      exact ⟨fault, Bool.eq_false_iff.mpr habsence, hlocate, (Except.error.inj h).symm⟩

theorem isFile_error {p : Path} {f : Failure} (h : t.isFile p = .error f) :
    ∃ fault : PathFault, fault.isAbsence = false ∧ t.locate p = .error fault ∧
      f = faultOf fault p.toString := by
  rcases Attempt.of_bind_eq_error h with hlook | ⟨e, -, h⟩
  · exact look_error hlook
  · split at h <;> cases h

/-- Bytes that cannot be read are refused by the system, unless the path cannot be there. -/
theorem readBytes_error {p : Path} {f : Failure} (h : t.readBytes p = .error f) :
    f.isSystemFailure = true ∨ hasNul p = true ∧ f = .value "embedded null byte" := by
  unfold readBytes at h
  split at h
  next => cases h
  next =>
    cases h
    exact .inl (by simp [isDirectoryFault, Failure.system, Failure.isSystemFailure])
  next fault hlocate =>
    cases h
    cases hnul : hasNul p with
    | true =>
        cases (locate_of_hasNul hnul).symm.trans hlocate
        exact .inr ⟨rfl, rfl⟩
    | false => exact .inl (isSystemFailure_faultOf hnul hlocate _)

/-- What is read are the bytes of a file. -/
theorem mem_of_readBytes {p : Path} {bytes : List UInt8} (h : t.readBytes p = .ok bytes) :
    ∃ place program, (place, Entry.file bytes program) ∈ t.entries := by
  unfold readBytes at h
  split at h
  next place _ program hlocate =>
    cases h
    obtain ⟨-, -, hentry, -⟩ := of_locate hlocate
    have hplace : place ≠ [] := by
      rintro rfl
      cases hentry
    exact ⟨place, program, mem_entries_of_eq_some hplace hentry⟩
  next => cases h
  next => cases h

/-- A file that cannot be read is refused by the system, has a path that cannot be there, or holds
bytes that are no text. -/
theorem readText_error {p : Path} {f : Failure} (h : t.readText p = .error f) :
    f.isSystemFailure = true ∨ hasNul p = true ∧ f = .value "embedded null byte" ∨
      ∃ bytes fault, t.readBytes p = .ok bytes ∧ Text.Utf8.decode bytes = .error fault ∧
        f = decodeFault fault := by
  rcases Attempt.of_bind_eq_error h with hbytes | ⟨bytes, hbytes, hdecode⟩
  · exact (readBytes_error hbytes).imp_right .inl
  · split at hdecode
    next => cases hdecode
    next fault hfault =>
      cases hdecode
      exact .inr (.inr ⟨bytes, fault, hbytes, hfault, rfl⟩)

/-! ## Directories -/

theorem mem_names_iff {place : List String} {name : String} :
    name ∈ t.names place ↔ (t.entry? (place ++ [name])).isSome := by
  rw [entry?_isSome_iff (by simp)]
  simp only [names, List.mem_filterMap]
  constructor
  · rintro ⟨⟨q, e⟩, hmem, hname⟩
    rcases List.eq_nil_or_concat q with rfl | ⟨front, last, rfl⟩
    · simp at hname
    · simp only [List.concat_eq_append, List.getLast?_concat, List.dropLast_concat] at hname hmem
      split at hname
      next hfront =>
        cases hname
        exact ⟨e, hfront ▸ hmem⟩
      next => cases hname
  · rintro ⟨e, hmem⟩
    exact ⟨_, hmem, by simp⟩

theorem absolute_child (p : Path) (name : String) :
    (t.absolute (p.child name)).parts = (t.absolute p).parts ++ [name] := by
  unfold absolute Path.join
  have habsolute : (p.child name).isAbsolute = p.isAbsolute := rfl
  rw [habsolute]
  split
  · rfl
  · simp [Path.child]

/-- What stands in a directory is found under its name, unless the path is too long then. -/
theorem Clear.locate_child (h : t.Clear) {p : Path} {place : List String} {name : String}
    {e : Entry π} (hp : t.locate p = .ok (place, .directory))
    (hentry : t.entry? (place ++ [name]) = some e) (hlong : (p.child name).isTooLong = false) :
    t.locate (p.child name) = .ok (place ++ [name], e) := by
  obtain ⟨hnul, -, hwalk, hplace⟩ := h.locate_eq_ok_iff.mp hp
  have hplain := h.names _ e hentry name (by simp)
  simp only [isPlainName, Bool.and_eq_true, Bool.not_eq_true', bne_iff_ne] at hplain
  refine h.locate_eq_ok_iff.mpr ⟨?_, hlong, ?_, hentry⟩
  · simp only [hasNul, Path.child, List.any_append, List.any_cons, List.any_nil, hplain.2] at hnul ⊢
    simpa using hnul
  · rw [absolute_child, walk_append, hwalk]
    exact walk_singleton hplace hplain.1 (by rw [hentry]; rfl)

theorem Plain.of_locate_child (h : t.Plain) {p : Path} {place q : List String} {name : String}
    {e : Entry π} (hp : t.locate p = .ok (place, .directory)) (hname : name ≠ "..")
    (hchild : t.locate (p.child name) = .ok (q, e)) : q = place ++ [name] := by
  have hwalk := (h.walk_of_locate hp).1
  have hwalkChild := (h.walk_of_locate hchild).1
  rw [absolute_child, walk_append, hwalk] at hwalkChild
  obtain ⟨_, ⟨hup, _⟩ | ⟨_, _, hend⟩⟩ := of_walk_cons hwalkChild
  · exact absurd hup hname
  · exact (Option.some.inj hend).symm

/-! ## More files -/

/-- A tree with more files than another. Nothing else is different. -/
structure AddsFiles (t more : FileTree π) : Prop where
  workingDirectory : more.workingDirectory = t.workingDirectory
  kept : ∀ place e, t.entry? place = some e → more.entry? place = some e
  added : ∀ place e, more.entry? place = some e →
    t.entry? place = some e ∨ ∃ bytes program, e = .file bytes program

namespace AddsFiles

theorem of_append {added : List (List String × Entry π)}
    (hadded : ∀ e ∈ added, ∃ bytes program, e.2 = .file bytes program) :
    t.AddsFiles { t with entries := t.entries ++ added } := by
  refine ⟨rfl, fun place e h => ?_, fun place e h => ?_⟩
  · by_cases hplace : place = []
    · subst hplace
      exact h
    · rw [entry?_of_ne_nil hplace] at h ⊢
      obtain ⟨found, hfound, hentry⟩ := Option.map_eq_some_iff.mp h
      rw [List.find?_append, hfound]
      exact congrArg some hentry
  · by_cases hplace : place = []
    · subst hplace
      exact .inl h
    · rw [entry?_of_ne_nil hplace, List.find?_append] at h
      rw [entry?_of_ne_nil hplace]
      cases hfound : t.entries.find? fun e => e.1 = place with
      | some found =>
          rw [hfound] at h
          exact .inl h
      | none =>
          rw [hfound, Option.none_or] at h
          obtain ⟨found, hnew, rfl⟩ := Option.map_eq_some_iff.mp h
          exact .inr (hadded found (List.mem_of_find?_eq_some hnew))

variable (h : t.AddsFiles more)

include h

theorem directory_iff {place : List String} :
    more.entry? place = some .directory ↔ t.entry? place = some .directory := by
  refine ⟨fun hmore => ?_, h.kept place .directory⟩
  rcases h.added place .directory hmore with ht | ⟨_, _, hfile⟩
  · exact ht
  · cases hfile

theorem absolute (p : Path) : more.absolute p = t.absolute p := by
  rw [FileTree.absolute, h.workingDirectory]
  rfl

theorem walk_of_walk {place rest q : List String} (hwalk : t.walk place rest = some q) :
    more.walk place rest = some q := by
  induction rest generalizing place with
  | nil => exact hwalk
  | cons name rest ih =>
      obtain ⟨hplace, ⟨rfl, hrest⟩ | ⟨hname, hnext, hrest⟩⟩ := of_walk_cons hwalk
      · simpa [walk, h.kept _ _ hplace] using ih hrest
      · obtain ⟨e, he⟩ := Option.isSome_iff_exists.mp hnext
        simpa [walk, h.kept _ _ hplace, hname, h.kept _ _ he] using ih hrest

/-- A walk goes through directories, which are the same, and ends at an old place or at a new
file. -/
theorem walk_or_new {place rest q : List String} {e : Entry π}
    (hwalk : more.walk place rest = some q) (hentry : more.entry? q = some e) :
    t.entry? q = none ∨ t.walk place rest = some q ∧ t.entry? q = some e := by
  have hold : ∀ q e, more.entry? q = some e → t.entry? q = none ∨ t.entry? q = some e := by
    intro q e he
    cases ht : t.entry? q with
    | none => exact .inl rfl
    | some old => exact .inr ((h.kept q old ht).symm.trans he)
  induction rest generalizing place with
  | nil =>
      cases hwalk
      exact (hold _ e hentry).imp_right fun ht => ⟨rfl, ht⟩
  | cons name rest ih =>
      obtain ⟨hplace, ⟨rfl, hrest⟩ | ⟨hname, hnext, hrest⟩⟩ := of_walk_cons hwalk
      · have hplace := h.directory_iff.mp hplace
        simpa [walk, hplace] using ih hrest
      · have hplace := h.directory_iff.mp hplace
        rcases ih hrest with hnew | ⟨hrest, ht⟩
        · exact .inl hnew
        · have hpresent := start_isSome hrest (by rw [ht]; rfl)
          exact .inr ⟨by simpa [walk, hplace, hname, hpresent] using hrest, ht⟩

theorem locate_of_locate (ht : t.Clear) (hmore : more.Clear) {p : Path} {place : List String}
    {e : Entry π} (hp : t.locate p = .ok (place, e)) : more.locate p = .ok (place, e) := by
  obtain ⟨hnul, hlong, hwalk, hentry⟩ := ht.locate_eq_ok_iff.mp hp
  refine hmore.locate_eq_ok_iff.mpr ⟨hnul, hlong, ?_, h.kept _ _ hentry⟩
  rw [h.absolute]
  exact h.walk_of_walk hwalk

/-- What a path leads to is what it led to before, or a new file. -/
theorem locate_or_new (ht : t.Clear) (hmore : more.Clear) {p : Path} {place : List String}
    {e : Entry π} (hp : more.locate p = .ok (place, e)) :
    t.locate p = .ok (place, e) ∨
      t.entry? place = none ∧ ∃ bytes program, e = .file bytes program := by
  obtain ⟨hnul, hlong, hwalk, hentry⟩ := hmore.locate_eq_ok_iff.mp hp
  rw [h.absolute] at hwalk
  rcases h.walk_or_new hwalk hentry with hnew | ⟨hwalk, ht_entry⟩
  · refine .inr ⟨hnew, ?_⟩
    rcases h.added _ _ hentry with hold | hfile
    · cases hnew.symm.trans hold
    · exact hfile
  · exact .inl (ht.locate_eq_ok_iff.mpr ⟨hnul, hlong, hwalk, ht_entry⟩)

theorem locate_directory_iff (ht : t.Clear) (hmore : more.Clear) {p : Path}
    {place : List String} :
    more.locate p = .ok (place, .directory) ↔ t.locate p = .ok (place, .directory) := by
  refine ⟨fun hp => ?_, h.locate_of_locate ht hmore⟩
  rcases h.locate_or_new ht hmore hp with hold | ⟨_, _, _, hfile⟩
  · exact hold
  · cases hfile

theorem resolve_eq (ht : t.Plain) (hmore : more.Plain) (p : Path) :
    more.resolve p = t.resolve p := by
  cases hp : hasNul p with
  | true =>
      unfold hasNul at hp
      rw [resolve, resolve, if_pos hp, if_pos hp]
  | false => rw [ht.resolve_eq hp, hmore.resolve_eq hp, h.absolute]

end AddsFiles

end Assay.FileTree
