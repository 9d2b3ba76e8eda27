import Assay.Proofs.PlainTree

/-! # Trees with links

A path that leads through links is followed with a budget that always suffices: each link is paid for
once, and only so many may be followed. So where a path leads depends on what stands at each place
only, and not on what is in the files.
-/

namespace Assay

namespace FileTree

variable {π : Type} {t : FileTree π}

/-! ## The budget for links -/

theorem length_cut_le (separator : Char) (cs : List Char) :
    (Text.cut separator cs).length ≤ cs.length + 1 := by
  induction cs with
  | nil => simp [Text.cut]
  | cons c cs ih =>
      unfold Text.cut
      split
      · simpa using ih
      · split
        next part parts hparts =>
          rw [hparts] at ih
          simp only [List.length_cons] at ih ⊢
          omega
        next => simp

theorem length_parts_le (s : String) : (Path.ofString s).parts.length ≤ s.length + 1 := by
  calc (Path.ofString s).parts.length ≤ ((Text.cut '/' s.toList).map String.ofList).length :=
        List.length_filter_le ..
    _ ≤ s.length + 1 := by
        rw [List.length_map, ← String.length_toList]
        exact length_cut_le ..

/-- The length of the longest link. -/
def longestLink (t : FileTree π) : Nat :=
  (t.entries.map fun e => match e.2 with
    | .link target => target.length
    | _ => 0).foldl max 0

theorem length_parts_of_link {place : List String} {target : String}
    (h : t.entry? place = some (.link target)) :
    (Path.ofString target).parts.length ≤ t.longestLink + 1 := by
  have hplace : place ≠ [] := by
    rintro rfl
    cases h
  have hlength : target.length ≤ t.longestLink := by
    refine le_foldl_max (List.mem_map.mpr ?_) 0
    exact ⟨(place, .link target), mem_entries_of_eq_some hplace h, rfl⟩
  have hparts := length_parts_le target
  omega

/-- Whatever the fuel, a path is followed to the same place if there is enough of it. -/
theorem follow_fuel {fuel more links : Nat} {place rest : List String}
    (hfuel : rest.length + links * (t.longestLink + 2) < fuel)
    (hmore : rest.length + links * (t.longestLink + 2) < more) :
    t.follow fuel links place rest = t.follow more links place rest := by
  induction fuel generalizing more links place rest with
  | zero => omega
  | succ fuel ih =>
      obtain ⟨more, rfl⟩ : ∃ n, more = n + 1 := ⟨more - 1, by omega⟩
      cases rest with
      | nil => rfl
      | cons name rest =>
          rw [List.length_cons] at hfuel hmore
          simp only [follow]
          cases t.entry? place with
          | none => rfl
          | some e =>
              cases e with
              | file | link => rfl
              | directory =>
                  simp only
                  refine if_congr Iff.rfl rfl (if_congr Iff.rfl (ih (by omega) (by omega))
                    (if_congr Iff.rfl rfl ?_))
                  cases hnext : t.entry? (place ++ [name]) with
                  | none => rfl
                  | some e =>
                      cases e with
                      | file | directory => exact ih (by omega) (by omega)
                      | link target =>
                          cases links with
                          | zero => rfl
                          | succ links =>
                              -- one link less pays for the names of the target
                              have hparts := length_parts_of_link hnext
                              rw [Nat.succ_mul] at hfuel hmore
                              exact ih (by rw [List.length_append]; omega)
                                (by rw [List.length_append]; omega)

/-- A path is followed with any fuel that is enough for it. -/
theorem locate_eq_follow {p : Path} (hp : hasNul p = false) (hlong : p.isTooLong = false)
    {fuel : Nat}
    (hfuel : (t.absolute p).parts.length + maxLinks * (t.longestLink + 2) < fuel) :
    t.locate p = t.follow fuel maxLinks [] (t.absolute p).parts >>= fun q =>
      match t.entry? q with
      | some e => .ok (q, e)
      | none => .error .missing := by
  unfold hasNul at hp
  have hown : (t.absolute p).parts.length + maxLinks * (t.longestLink + 2) <
      (t.absolute p).parts.length + (maxLinks + 1) * (t.longestLink + 2) + 1 := by
    rw [Nat.succ_mul]
    omega
  rw [← follow_fuel hown hfuel]
  simp only [locate, hp, hlong]
  rfl

end FileTree

/-- What stands at a place, without what is in files. -/
def Entry.bare {π : Type} : Entry π → Entry π
  | .file _ _ => .file [] none
  | e => e

namespace FileTree

variable {π : Type} {t u : FileTree π}

/-! ## Trees of the same shape -/

/-- Trees with the same things at all places; only what is in files can be different. -/
structure SameShape (t u : FileTree π) : Prop where
  workingDirectory : u.workingDirectory = t.workingDirectory
  closedPlaces : u.closedPlaces = t.closedPlaces
  entries : ∀ place, (u.entry? place).map Entry.bare = (t.entry? place).map Entry.bare

namespace SameShape

/-- At each place stands the same thing, or a file in both trees. -/
theorem cases (h : SameShape t u) (place : List String) :
    u.entry? place = t.entry? place ∨
      ∃ bytes program others other, t.entry? place = some (.file bytes program) ∧
        u.entry? place = some (.file others other) := by
  have hplace := h.entries place
  cases ht : t.entry? place with
  | none => exact .inl (by simpa [ht] using hplace)
  | some e =>
      rw [ht] at hplace
      obtain ⟨f, hu, hbare⟩ := Option.map_eq_some_iff.mp hplace
      rw [hu]
      cases e <;> cases f <;> simp_all [Entry.bare]

/-- Paths are followed to the same places. -/
theorem follow_eq (h : SameShape t u) (fuel links : Nat) (place rest : List String) :
    u.follow fuel links place rest = t.follow fuel links place rest := by
  induction fuel generalizing links place rest with
  | zero => rfl
  | succ fuel ih =>
      cases rest with
      | nil => rfl
      | cons name rest =>
          simp only [follow, isClosed, ih, h.closedPlaces]
          rcases h.cases place with hplace | ⟨_, _, _, _, ht, hu⟩
          · rw [hplace]
            rcases h.cases (place ++ [name]) with hnext | ⟨_, _, _, _, ht, hu⟩
            · rw [hnext]
            · rw [ht, hu]
          · rw [ht, hu]

theorem absolute (h : SameShape t u) (p : Path) : u.absolute p = t.absolute p := by
  rw [FileTree.absolute, h.workingDirectory, FileTree.absolute]

/-- A path leads to the same place, or fails in the same way. -/
theorem locate_eq (h : SameShape t u) (p : Path) :
    u.locate p = t.locate p >>= fun found =>
      match u.entry? found.1 with
      | some e => .ok (found.1, e)
      | none => .error .missing := by
  cases hp : hasNul p with
  | true =>
      rw [locate_of_hasNul hp, locate_of_hasNul hp]
      rfl
  | false =>
      cases hlong : p.isTooLong with
      | true =>
          rw [locate_of_isTooLong hp hlong, locate_of_isTooLong hp hlong]
          rfl
      | false =>
          obtain ⟨fuel, ht, hu⟩ : ∃ fuel,
              (t.absolute p).parts.length + maxLinks * (t.longestLink + 2) < fuel ∧
                (u.absolute p).parts.length + maxLinks * (u.longestLink + 2) < fuel :=
            ⟨_, Nat.lt_succ_of_le (Nat.le_add_right ..), Nat.lt_succ_of_le (Nat.le_add_left ..)⟩
          rw [locate_eq_follow hp hlong ht, locate_eq_follow hp hlong hu, h.absolute, h.follow_eq]
          cases t.follow fuel maxLinks [] (t.absolute p).parts with
          | error f => rfl
          | ok q =>
              rcases h.cases q with hq | ⟨_, _, _, _, ht, hu⟩
              · simp only [hq, bind, Except.bind]
                cases hentry : t.entry? q <;> simp [hq, hentry]
              · simp [ht, hu, bind, Except.bind]

end SameShape

theorem entry?_of_locate {p : Path} {place : List String} {e : Entry π}
    (h : t.locate p = .ok (place, e)) : t.entry? place = some e := (of_locate h).2.2.1

theorem resolve_of_hasNul {p : Path} (hp : hasNul p = true) :
    t.resolve p = .error (.value "embedded null byte") := by
  unfold hasNul at hp
  rw [resolve, if_pos hp]

/-- A path is resolved to where its names lead from the root. -/
theorem exists_of_resolve {p q : Path} (h : t.resolve p = .ok q) :
    ∃ fuel, q = { root := .slash
                  parts := lexical (t.resolveNames fuel [] [] (t.absolute p).parts).1 } := by
  unfold resolve at h
  split at h
  next => cases h
  next =>
    simp only at h
    split at h
    next => cases h
    next => exact ⟨_, (Except.ok.inj h).symm⟩

/-- A resolved path begins at the root and has no `..`. -/
theorem of_resolve {p q : Path} (h : t.resolve p = .ok q) : q.root = .slash ∧ ".." ∉ q.parts := by
  obtain ⟨fuel, rfl⟩ := exists_of_resolve h
  exact ⟨rfl, up_not_mem_climb List.not_mem_nil⟩

end FileTree

end Assay
