import Assay.Plugin.Runner

/-! # Entries by name

Analyzers stand under their names in the order in which the names came first. Putting analyzers one
after the other leaves the last one of each name, and putting them once more changes nothing.
-/

namespace Assay.Plugin

/-! ## Keys -/

/-- Put analyzers under their names one after the other. -/
def putAll (entries : List (Value × Descriptor)) (ds : List Descriptor) :
    List (Value × Descriptor) :=
  ds.foldl (fun done d => putByName d done) entries

/-- The analyzer under a name. -/
def under (name : Value) (entries : List (Value × Descriptor)) : Option Descriptor :=
  (entries.find? fun e => e.1.same name).map (·.2)

theorem under_cons (name : Value) (e : Value × Descriptor) (rest : List (Value × Descriptor)) :
    under name (e :: rest) = if e.1.same name then some e.2 else under name rest := by
  unfold under
  cases hsame : e.1.same name <;> simp [hsame]

/-- A name that is there keeps its key, and a new one goes to the end. -/
theorem keys_putByName (d : Descriptor) (entries : List (Value × Descriptor)) :
    (putByName d entries).map (·.1) = entries.map (·.1) ++
      if (under d.name entries).isSome then [] else [d.name] := by
  induction entries with
  | nil => rfl
  | cons e rest ih =>
      cases hsame : e.1.same d.name with
      | true => simp [putByName, under_cons, hsame]
      | false => simp [putByName, under_cons, hsame, ih]

theorem putAll_eq_nil {ds : List Descriptor} {entries : List (Value × Descriptor)}
    (h : putAll entries ds = []) : entries = [] ∧ ds = [] := by
  induction ds generalizing entries with
  | nil => exact ⟨h, rfl⟩
  | cons d ds ih =>
      have hput : putByName d entries = [] := (ih h).1
      cases entries with
      | nil => simp [putByName] at hput
      | cons e rest =>
          unfold putByName at hput
          split at hput <;> simp at hput

theorem mem_putByName {d : Descriptor} {entries : List (Value × Descriptor)}
    {e : Value × Descriptor} (he : e ∈ putByName d entries) :
    e ∈ entries ∨ e.2 = d ∧ (e.1 = d.name ∨ e.1.same d.name = true) := by
  induction entries with
  | nil =>
      rw [putByName, List.mem_singleton] at he
      subst he
      exact .inr ⟨rfl, .inl rfl⟩
  | cons first rest ih =>
      unfold putByName at he
      split at he
      next hsame =>
        rcases List.mem_cons.mp he with rfl | he
        · exact .inr ⟨rfl, .inr hsame⟩
        · exact .inl (List.mem_cons_of_mem first he)
      next =>
        rcases List.mem_cons.mp he with rfl | he
        · exact .inl List.mem_cons_self
        · exact (ih he).imp_left (List.mem_cons_of_mem first)

theorem mem_putAll {ds : List Descriptor} {entries : List (Value × Descriptor)}
    {e : Value × Descriptor} (he : e ∈ putAll entries ds) :
    e ∈ entries ∨ e.2 ∈ ds ∧ (e.1 = e.2.name ∨ e.1.same e.2.name = true) := by
  induction ds generalizing entries with
  | nil => exact .inl he
  | cons d ds ih =>
      rcases ih he with hput | ⟨hmem, hkey⟩
      · rcases mem_putByName hput with hold | ⟨rfl, hkey⟩
        · exact .inl hold
        · exact .inr ⟨List.mem_cons_self, hkey⟩
      · exact .inr ⟨List.mem_cons_of_mem d hmem, hkey⟩

/-! ## Look-up -/

/-- Names among which equality is an equivalence, as look-up by name takes for granted. -/
structure LawfulNames (names : List Value) : Prop where
  refl : ∀ a ∈ names, a.same a = true
  symm : ∀ a ∈ names, ∀ b ∈ names, a.same b = true → b.same a = true
  trans : ∀ a ∈ names, ∀ b ∈ names, ∀ c ∈ names,
    a.same b = true → b.same c = true → a.same c = true

theorem LawfulNames.of_subset {names more : List Value} (h : LawfulNames more)
    (hsub : names ⊆ more) : LawfulNames names :=
  ⟨fun a ha => h.refl a (hsub ha), fun a ha b hb => h.symm a (hsub ha) b (hsub hb),
    fun a ha b hb c hc => h.trans a (hsub ha) b (hsub hb) c (hsub hc)⟩

theorem lawfulNames_texts (texts : List String) : LawfulNames (texts.map .text) := by
  have hsame : ∀ s t : String, (Value.text s).same (.text t) = true ↔ s = t := by
    intro s t
    simp [Value.same]
  constructor
  · intro a ha
    obtain ⟨s, _, rfl⟩ := List.mem_map.mp ha
    exact (hsame s s).mpr rfl
  · intro a ha b hb hab
    obtain ⟨s, _, rfl⟩ := List.mem_map.mp ha
    obtain ⟨t, _, rfl⟩ := List.mem_map.mp hb
    exact (hsame t s).mpr ((hsame s t).mp hab).symm
  · intro a ha b hb c hc hab hbc
    obtain ⟨s, _, rfl⟩ := List.mem_map.mp ha
    obtain ⟨t, _, rfl⟩ := List.mem_map.mp hb
    obtain ⟨u, _, rfl⟩ := List.mem_map.mp hc
    exact (hsame s u).mpr (((hsame s t).mp hab).trans ((hsame t u).mp hbc))

/-- Putting an analyzer changes what stands under its own name and nothing else. -/
theorem under_putByName {name : Value} {d : Descriptor} {entries : List (Value × Descriptor)}
    (h : LawfulNames (name :: d.name :: entries.map (·.1))) :
    under name (putByName d entries) =
      if d.name.same name then some d else under name entries := by
  induction entries with
  | nil => exact under_cons name (d.name, d) []
  | cons e rest ih =>
      have htail := ih (h.of_subset (List.cons_subset_cons name
        (List.cons_subset_cons d.name (List.subset_cons_self e.1 _))))
      have hcross : d.name.same name = true → (e.1.same name = true ↔ e.1.same d.name = true) := by
        intro hname
        have hback := h.symm d.name (by simp) name (by simp) hname
        exact ⟨fun he => h.trans e.1 (by simp) name (by simp) d.name (by simp) he hback,
          fun he => h.trans e.1 (by simp) d.name (by simp) name (by simp) he hname⟩
      have hboth : e.1.same d.name = true → e.1.same name = true → d.name.same name = true := by
        intro hd hname
        have hback := h.symm e.1 (by simp) d.name (by simp) hd
        exact h.trans d.name (by simp) e.1 (by simp) name (by simp) hback hname
      -- the first entry is either replaced, or passed over by both look-ups
      unfold putByName
      cases hd : e.1.same d.name <;> cases hn : e.1.same name <;>
        cases hname : d.name.same name <;> simp_all [under_cons]

theorem mem_keys_putByName {d : Descriptor} {entries : List (Value × Descriptor)} {key : Value}
    (hkey : key ∈ (putByName d entries).map (·.1)) : key = d.name ∨ key ∈ entries.map (·.1) := by
  rw [keys_putByName, List.mem_append] at hkey
  rcases hkey with hold | hnew
  · exact .inr hold
  · split at hnew
    · simp at hnew
    · exact .inl (List.mem_singleton.mp hnew)

theorem mem_keys_putAll {ds : List Descriptor} {entries : List (Value × Descriptor)} {key : Value}
    (hkey : key ∈ (putAll entries ds).map (·.1)) :
    key ∈ ds.map (·.name) ++ entries.map (·.1) := by
  induction ds generalizing entries with
  | nil => exact hkey
  | cons d ds ih =>
      rcases List.mem_append.mp (ih hkey) with hmem | hmem
      · simp [hmem]
      · rcases mem_keys_putByName hmem with rfl | hmem <;> simp_all

/-- The last analyzer that was put under a name stands there. -/
theorem under_putAll {name : Value} {ds : List Descriptor} {entries : List (Value × Descriptor)}
    (h : LawfulNames (name :: (ds.map (·.name) ++ entries.map (·.1)))) :
    under name (putAll entries ds) =
      (ds.reverse.find? fun d => d.name.same name).or (under name entries) := by
  induction ds generalizing entries with
  | nil => rfl
  | cons d ds ih =>
      have hnext : LawfulNames (name :: (ds.map (·.name) ++ (putByName d entries).map (·.1))) := by
        apply h.of_subset
        intro key hkey
        rcases List.mem_cons.mp hkey with rfl | hkey
        · exact List.mem_cons_self
        · rcases List.mem_append.mp hkey with hkey | hkey
          · simp [hkey]
          · rcases mem_keys_putByName hkey with rfl | hkey <;> simp_all
      have hput : under name (putByName d entries) =
          if d.name.same name then some d else under name entries :=
        under_putByName (h.of_subset (List.cons_subset_cons name
          (List.cons_subset_cons d.name (List.subset_append_right _ _))))
      have hrun := ih hnext
      change under name (putAll (putByName d entries) ds) = _
      rw [hrun, hput, List.reverse_cons, List.find?_append, Option.or_assoc]
      congr 1
      cases hname : d.name.same name <;> simp [hname]

/-- Keys of which no two are equal. -/
def KeysApart (entries : List (Value × Descriptor)) : Prop :=
  (entries.map (·.1)).Pairwise fun a b => a.same b = false

theorem keysApart_nil : KeysApart [] := List.Pairwise.nil

theorem same_eq_false_of_under {name : Value} {entries : List (Value × Descriptor)}
    (hnone : under name entries = none) {key : Value} (hkey : key ∈ entries.map (·.1)) :
    key.same name = false := by
  obtain ⟨e, he, rfl⟩ := List.mem_map.mp hkey
  have hfind := Option.map_eq_none_iff.mp hnone
  simpa using List.find?_eq_none.mp hfind e he

theorem KeysApart.putByName {entries : List (Value × Descriptor)} (h : KeysApart entries)
    (d : Descriptor) : KeysApart (putByName d entries) := by
  unfold KeysApart at h ⊢
  rw [keys_putByName]
  cases hunder : under d.name entries with
  | some previous => simpa using h
  | none =>
      refine List.pairwise_append.mpr ⟨h, List.pairwise_singleton _ _, ?_⟩
      intro key hkey name hname
      rw [List.mem_singleton.mp hname]
      exact same_eq_false_of_under hunder hkey

theorem KeysApart.putAll {entries : List (Value × Descriptor)} (h : KeysApart entries)
    (ds : List Descriptor) : KeysApart (putAll entries ds) := by
  induction ds generalizing entries with
  | nil => exact h
  | cons d ds ih => exact ih (h.putByName d)

/-- Entries are determined by their keys and by what stands under them. -/
theorem eq_of_under {entries others : List (Value × Descriptor)}
    (hkeys : entries.map (·.1) = others.map (·.1)) (hapart : KeysApart entries)
    (hrefl : ∀ key ∈ entries.map (·.1), key.same key = true)
    (hunder : ∀ key ∈ entries.map (·.1), under key entries = under key others) :
    entries = others := by
  induction entries generalizing others with
  | nil => simpa using hkeys.symm
  | cons e rest ih =>
      cases others with
      | nil => simp at hkeys
      | cons o more =>
          have hhead : e.1 = o.1 := (List.cons.inj hkeys).1
          have htail : rest.map (·.1) = more.map (·.1) := (List.cons.inj hkeys).2
          obtain ⟨hfirst, hrest⟩ := List.pairwise_cons.mp hapart
          have hsame : e.1.same e.1 = true := hrefl e.1 List.mem_cons_self
          -- a key finds its own entry first, because no key in front is equal to it
          have hvalue : e.2 = o.2 := by
            have heq := hunder e.1 List.mem_cons_self
            rw [under_cons, under_cons, ← hhead] at heq
            simpa [hsame] using heq
          have hentry : e = o := Prod.ext hhead hvalue
          have hmore : rest = more := by
            refine ih htail hrest (fun key hkey => hrefl key (List.mem_cons_of_mem _ hkey)) ?_
            intro key hkey
            have hapart : e.1.same key = false := hfirst key hkey
            have heq := hunder key (List.mem_cons_of_mem _ hkey)
            rw [under_cons, under_cons, ← hhead] at heq
            simpa [hapart] using heq
          rw [hentry, hmore]

/-- Names that are there already bring no new keys. -/
theorem keys_putAll_of_known {ds : List Descriptor} {entries : List (Value × Descriptor)}
    (h : LawfulNames (ds.map (·.name) ++ entries.map (·.1)))
    (hknown : ∀ d ∈ ds, (under d.name entries).isSome) :
    (putAll entries ds).map (·.1) = entries.map (·.1) := by
  induction ds generalizing entries with
  | nil => rfl
  | cons d ds ih =>
      have hkeys : (putByName d entries).map (·.1) = entries.map (·.1) := by
        rw [keys_putByName, if_pos (hknown d List.mem_cons_self), List.append_nil]
      have hnext : ∀ e ∈ ds, (under e.name (putByName d entries)).isSome := by
        intro e he
        have hlawful : LawfulNames (e.name :: d.name :: entries.map (·.1)) := by
          apply h.of_subset
          intro key hkey
          rcases List.mem_cons.mp hkey with rfl | hkey
          · exact List.mem_append_left _ (List.mem_map_of_mem (List.mem_cons_of_mem d he))
          · rcases List.mem_cons.mp hkey with rfl | hkey <;> simp_all
        rw [under_putByName hlawful]
        split
        · rfl
        · exact hknown e (List.mem_cons_of_mem d he)
      change (putAll (putByName d entries) ds).map (·.1) = _
      rw [ih (by rw [hkeys]; exact h.of_subset (List.subset_cons_self d.name _)) hnext, hkeys]

/-- Putting analyzers brings no names but theirs. -/
theorem LawfulNames.putAll {names : List Value} {ds : List Descriptor}
    {entries : List (Value × Descriptor)}
    (h : LawfulNames (names ++ (ds.map (·.name) ++ entries.map (·.1)))) :
    LawfulNames (names ++ (Plugin.putAll entries ds).map (·.1)) := by
  apply h.of_subset
  intro key hkey
  rcases List.mem_append.mp hkey with hkey | hkey
  · exact List.mem_append_left _ hkey
  · exact List.mem_append_right _ (mem_keys_putAll hkey)

theorem under_putAll_isSome {ds : List Descriptor} {entries : List (Value × Descriptor)}
    (h : LawfulNames (ds.map (·.name) ++ entries.map (·.1))) {d : Descriptor} (hd : d ∈ ds) :
    (under d.name (putAll entries ds)).isSome := by
  have hname : d.name ∈ ds.map (·.name) ++ entries.map (·.1) :=
    List.mem_append_left _ (List.mem_map_of_mem hd)
  have hfound : (ds.reverse.find? fun e => e.name.same d.name).isSome :=
    List.find?_isSome.mpr ⟨d, List.mem_reverse.mpr hd, h.refl d.name hname⟩
  rw [under_putAll (h.of_subset (List.cons_subset.mpr ⟨hname, List.Subset.refl _⟩)),
    Option.isSome_or, hfound, Bool.true_or]

/-- Putting the same analyzers once more changes nothing. -/
theorem putAll_putAll {ds : List Descriptor} {entries : List (Value × Descriptor)}
    (h : LawfulNames (ds.map (·.name) ++ entries.map (·.1))) (hapart : KeysApart entries) :
    putAll (putAll entries ds) ds = putAll entries ds := by
  have htwice : LawfulNames (ds.map (·.name) ++ (ds.map (·.name) ++ entries.map (·.1))) :=
    h.of_subset (by simp)
  have hkeys := keys_putAll_of_known htwice.putAll fun d hd => under_putAll_isSome h hd
  refine eq_of_under hkeys ((hapart.putAll ds).putAll ds) ?_ ?_
  · intro key hkey
    exact h.refl key (mem_keys_putAll (hkeys ▸ hkey))
  · intro key hkey
    -- the second time finds under each name what the first one has put there
    have hname := mem_keys_putAll (hkeys ▸ hkey)
    have hfirst : LawfulNames (key :: (ds.map (·.name) ++ entries.map (·.1))) :=
      h.of_subset (List.cons_subset.mpr ⟨hname, List.Subset.refl _⟩)
    have hsecond : LawfulNames (key :: ds.map (·.name) ++ (putAll entries ds).map (·.1)) :=
      LawfulNames.putAll (hfirst.of_subset (by simp))
    rw [under_putAll hsecond, under_putAll hfirst, ← Option.or_assoc, Option.or_self]

end Assay.Plugin
