import Assay.Proofs.Configuration

/-! # Layers of overrides

A configuration can be overridden several times. What counts in the end is the last value that a
field was given: the layers could as well be one, and those that give no value could be left out.
The first layer that gives a value to something that is no field fails.
-/

namespace Assay

theorem exists_first {α : Type} {p : α → Prop} {xs : List α} (h : ¬ ∀ x ∈ xs, p x) :
    ∃ front x back, xs = front ++ x :: back ∧ (∀ y ∈ front, p y) ∧ ¬ p x := by
  induction xs with
  | nil => exact absurd (List.forall_mem_nil p) h
  | cons x rest ih =>
      by_cases hx : p x
      · have hrest : ¬ ∀ y ∈ rest, p y := fun hrest => h (List.forall_mem_cons.mpr ⟨hx, hrest⟩)
        obtain ⟨front, y, back, rfl, hfront, hy⟩ := ih hrest
        exact ⟨x :: front, y, back, rfl, List.forall_mem_cons.mpr ⟨hx, hfront⟩, hy⟩
      · exact ⟨[], x, rest, rfl, List.forall_mem_nil p, hx⟩

namespace Config

/-- Override a configuration by layers, one after the other. -/
def mergeLayers (c : Config) (layers : List (List (String × Value))) : Except Failure Config :=
  layers.foldlM merge c

/-! ## Values that are given -/

/-- Whether an override gives a value: anything but nothing and an empty list. -/
def Gives (o : String × Value) : Prop := o.2 ≠ .none ∧ o.2 ≠ .list [] ∧ o.2 ≠ .tuple []

theorem isVoid_eq_false_iff (o : String × Value) : isVoid o.2 = false ↔ Gives o := by
  unfold isVoid Gives
  split <;> simp_all

instance (o : String × Value) : Decidable (Gives o) := decidable_of_iff _ (isVoid_eq_false_iff o)

/-- Whether a name is that of a field. -/
def IsField (name : String) : Prop := ∃ key : ConfigKey, name = key.name

/-- Whether overrides give values to fields only. Other names can be there, without a value. -/
def ForFields (overrides : List (String × Value)) : Prop := ∀ o ∈ overrides, Gives o → IsField o.1

/-- Whether no override has the name of the configuration itself. -/
def Nameable (overrides : List (String × Value)) : Prop := ∀ o ∈ overrides, o.1 ≠ ownName

/-- The last value that overrides give a field. -/
def lastGiven? (key : ConfigKey) (overrides : List (String × Value)) : Option Value :=
  (overrides.filter fun o => o.1 = key.name ∧ Gives o).getLast?.map fun o => override o.2

theorem lastGiven?_append (key : ConfigKey) (overrides more : List (String × Value)) :
    lastGiven? key (overrides ++ more) =
      (lastGiven? key more).or (lastGiven? key overrides) := by
  rw [lastGiven?, List.filter_append, List.getLast?_append, Option.map_or]
  rfl

theorem name_inj {key other : ConfigKey} : key.name = other.name ↔ key = other := by
  refine ⟨fun h => ?_, congrArg ConfigKey.name⟩
  have hname := congrArg ConfigKey.ofName? h
  rwa [ofName?_name, ofName?_name, Option.some.injEq] at hname

theorem lastGiven?_singleton (key other : ConfigKey) {v : Value} (hv : Gives (other.name, v)) :
    lastGiven? key [(other.name, v)] = if key = other then some (override v) else none := by
  unfold lastGiven?
  by_cases hkey : key = other
  · simp [hkey, hv]
  · simp [hkey, name_inj, Ne.symm hkey]

/-! ## Overriding one after the other -/

theorem overrideAll_append (c : Config) (overrides more : List (String × Value)) :
    c.overrideAll (overrides ++ more) = c.overrideAll overrides >>= fun d => d.overrideAll more := by
  induction overrides generalizing c with
  | nil => rfl
  | cons o rest ih =>
      obtain ⟨name, v⟩ := o
      rw [List.cons_append, overrideAll, overrideAll]
      split
      next => exact ih c
      next =>
        split
        next => exact ih _
        next => rfl

/-- Layers are overrides one after the other. -/
theorem mergeLayers_eq {layers : List (List (String × Value))} (h : Nameable layers.flatten)
    (c : Config) : c.mergeLayers layers = c.overrideAll layers.flatten := by
  unfold mergeLayers
  induction layers generalizing c with
  | nil => rfl
  | cons layer rest ih =>
      obtain ⟨hlayer, hrest⟩ := List.forall_mem_append.mp h
      rw [List.foldlM_cons, merge_of_ne hlayer, List.flatten_cons, overrideAll_append]
      exact bind_congr (ih hrest)

theorem lastGiven?_of_void {overrides : List (String × Value)} (h : ∀ o ∈ overrides, ¬ Gives o)
    (key : ConfigKey) : lastGiven? key overrides = none := by
  have hnone : (overrides.filter fun o => o.1 = key.name ∧ Gives o) = [] :=
    List.filter_eq_nil_iff.mpr fun o ho => by simp [h o ho]
  rw [lastGiven?, hnone]
  rfl

/-- Overrides that give values to fields only leave in each field the last value that it is given. -/
theorem overrideAll_of_forFields {overrides : List (String × Value)} (h : ForFields overrides)
    (c : Config) : ∃ d, c.overrideAll overrides = .ok d ∧
      ∀ key, d.get key = (lastGiven? key overrides).getD (c.get key) := by
  induction overrides generalizing c with
  | nil => exact ⟨c, rfl, fun _ => rfl⟩
  | cons o rest ih =>
      obtain ⟨name, v⟩ := o
      obtain ⟨hfirst, hrest⟩ := List.forall_mem_cons.mp h
      have hsplit := fun key => lastGiven?_append key [(name, v)] rest
      rw [List.singleton_append] at hsplit
      rw [overrideAll]
      cases hvoid : isVoid v with
      | true =>
          have hnot : ∀ o ∈ [(name, v)], ¬ Gives o := by simp [← isVoid_eq_false_iff, hvoid]
          obtain ⟨d, hd, hget⟩ := ih hrest c
          exact ⟨d, hd, fun key => by rw [hget, hsplit, lastGiven?_of_void hnot, Option.or_none]⟩
      | false =>
          have hgives : Gives (name, v) := (isVoid_eq_false_iff _).mp hvoid
          obtain ⟨other, rfl⟩ := hfirst hgives
          obtain ⟨d, hd, hget⟩ := ih hrest (c.set other (override v))
          refine ⟨d, by simpa [ofName?_name] using hd, fun key => ?_⟩
          rw [hget, hsplit, lastGiven?_singleton key other hgives]
          -- what the first override gives stays where the rest gives nothing
          cases lastGiven? key rest with
          | some w => rfl
          | none =>
              by_cases hkey : key = other
              · simp [hkey]
              · simp [hkey]

/-- The first override that gives a value to something else than a field fails. -/
theorem overrideAll_of_other {front back : List (String × Value)} {o : String × Value}
    (hfront : ForFields front) (ho : Gives o) (hother : ¬ IsField o.1) (c : Config) :
    c.overrideAll (front ++ o :: back) = .error (unexpected o.1) := by
  obtain ⟨d, hd, -⟩ := overrideAll_of_forFields hfront c
  have hname : ConfigKey.ofName? o.1 = none := by
    refine List.find?_eq_none.mpr fun key _ hkey => hother ⟨key, ?_⟩
    exact (beq_iff_eq.mp hkey).symm
  have hvoid : isVoid o.2 = false := (isVoid_eq_false_iff o).mpr ho
  rw [overrideAll_append, hd, Attempt.ok_bind, overrideAll, hvoid, hname]
  rfl

/-! ## One layer over another -/

/-- A layer over another: of overrides with one name the upper one stays. -/
def overlay (lower upper : List (String × Value)) : List (String × Value) :=
  (lower.filter fun o => ∀ p ∈ upper, p.1 ≠ o.1) ++ upper

theorem lastGiven?_eq_none_iff {key : ConfigKey} {overrides : List (String × Value)} :
    lastGiven? key overrides = none ↔ ∀ o ∈ overrides, o.1 = key.name → ¬ Gives o := by
  simp [lastGiven?]

/-- What an overlay covers is what would not have stayed. -/
theorem lastGiven?_overlay (key : ConfigKey) (lower upper : List (String × Value)) :
    lastGiven? key (overlay lower (upper.filter fun o => Gives o)) =
      lastGiven? key (lower ++ upper) := by
  have hupper : lastGiven? key (upper.filter fun o => Gives o) = lastGiven? key upper := by
    simp only [lastGiven?, List.filter_filter, ← Bool.decide_and, and_assoc, and_self]
  rw [overlay, lastGiven?_append, lastGiven?_append, hupper]
  cases hlast : lastGiven? key upper with
  | some v => rfl
  | none =>
      -- nothing above gives the field a value, so it covers no override of this field
      have hstays : ∀ o ∈ lower, o.1 = key.name →
          ∀ p ∈ upper.filter fun o => Gives o, p.1 ≠ o.1 := by
        intro o _ ho p hp hname
        obtain ⟨hp, hgives⟩ := List.mem_filter.mp hp
        exact lastGiven?_eq_none_iff.mp hlast p hp (hname.trans ho) (of_decide_eq_true hgives)
      rw [Option.none_or, Option.none_or, lastGiven?, lastGiven?, List.filter_filter]
      simp only [← Bool.decide_and]
      have hsame : ∀ o ∈ lower, ((o.1 = key.name ∧ Gives o) ∧
          ∀ p ∈ upper.filter fun o => Gives o, p.1 ≠ o.1) ↔ o.1 = key.name ∧ Gives o :=
        fun o ho => and_iff_left_of_imp fun h => hstays o ho h.1
      rw [List.filter_congr fun o ho => decide_eq_decide.mpr (hsame o ho)]

theorem ext_get {c d : Config} (h : ∀ key, c.get key = d.get key) : c = d := by
  obtain ⟨_⟩ := c
  obtain ⟨_⟩ := d
  exact congrArg Config.mk (funext h)

/-! ## What overriding does -/

/-- Overrides that a configuration takes. -/
structure Fits (overrides : List (String × Value)) : Prop where
  nameable : Nameable overrides
  forFields : ForFields overrides

theorem Fits.overlay {lower upper : List (String × Value)} (hlower : Fits lower)
    (hupper : Fits upper) : Fits (overlay lower (upper.filter fun o => Gives o)) := by
  have hmem : ∀ o ∈ Config.overlay lower (upper.filter fun o => Gives o), o ∈ lower ∨ o ∈ upper :=
    fun o ho => (List.mem_append.mp ho).imp List.mem_of_mem_filter List.mem_of_mem_filter
  refine ⟨fun o ho => ?_, fun o ho => ?_⟩
  · exact (hmem o ho).elim (hlower.nameable o) (hupper.nameable o)
  · exact (hmem o ho).elim (hlower.forFields o) (hupper.forFields o)

/-- What overrides that a configuration does not take fail with. -/
inductive Refusal : List (String × Value) → Failure → Prop where
  | ownName {overrides : List (String × Value)} (taken : ¬ Nameable overrides) :
      Refusal overrides ownNameTaken
  /-- The first override that gives a value to something else than a field. -/
  | unexpected {front back : List (String × Value)} {o : String × Value}
      (nameable : Nameable (front ++ o :: back)) (first : ForFields front) (gives : Gives o)
      (other : ¬ IsField o.1) : Refusal (front ++ o :: back) (unexpected o.1)

theorem Refusal.merge {overrides : List (String × Value)} {f : Failure}
    (h : Refusal overrides f) (c : Config) : c.merge overrides = .error f := by
  cases h with
  | ownName taken =>
      refine if_pos (List.any_eq_true.mpr ?_)
      simpa [Nameable] using taken
  | unexpected nameable first gives other =>
      rw [merge_of_ne nameable, overrideAll_of_other first gives other]

theorem exists_refusal {overrides : List (String × Value)} (h : ¬ Fits overrides) :
    ∃ f, Refusal overrides f := by
  by_cases hnameable : Nameable overrides
  · have hother : ¬ ForFields overrides := fun hfields => h ⟨hnameable, hfields⟩
    obtain ⟨front, o, back, rfl, hfront, ho⟩ := exists_first hother
    obtain ⟨hgives, hother⟩ := Classical.not_imp.mp ho
    exact ⟨_, .unexpected hnameable hfront hgives hother⟩
  · exact ⟨_, .ownName hnameable⟩

/-- What overriding a configuration does. -/
structure Overriding (c : Config) : Prop where
  /-- Each field has the last value that it is given, or the one that it has without overrides. -/
  last : ∀ layers : List (List (String × Value)), Fits layers.flatten →
    ∃ d, c.mergeLayers layers = .ok d ∧
      ∀ key, d.get key = (lastGiven? key layers.flatten).getD (c.get key)
  /-- Two layers are as good as one: the lower one with what the upper one gives laid over it. -/
  joined : ∀ lower upper, Fits lower → Fits upper →
    (c.merge lower >>= fun d => d.merge upper) =
      c.merge (overlay lower (upper.filter fun o => Gives o))
  /-- Overrides that give no value change nothing. -/
  void : ∀ overrides, Nameable overrides → (∀ o ∈ overrides, ¬ Gives o) →
    c.merge overrides = .ok c
  /-- The first layer that is not taken fails, and so do the layers. -/
  refused : ∀ front layer back, Fits (List.flatten front) → ¬ Fits layer →
    ∃ d f, c.mergeLayers front = .ok d ∧ Refusal layer f ∧ d.merge layer = .error f ∧
      c.mergeLayers (front ++ layer :: back) = .error f

theorem overriding_layers (c : Config) : Overriding c := by
  have hlast : ∀ layers : List (List (String × Value)), Fits layers.flatten →
      ∃ d, c.mergeLayers layers = .ok d ∧
        ∀ key, d.get key = (lastGiven? key layers.flatten).getD (c.get key) := by
    intro layers h
    rw [mergeLayers_eq h.nameable]
    exact overrideAll_of_forFields h.forFields c
  refine { last := hlast, joined := ?joined, void := ?void, refused := ?refused }
  case joined =>
    intro lower upper hlower hupper
    rw [merge_of_ne (hlower.overlay hupper).nameable, merge_of_ne hlower.nameable,
      bind_congr fun d => merge_of_ne hupper.nameable d, ← overrideAll_append]
    -- both sides are known by what they leave in each field
    obtain ⟨d, hd, hget⟩ := overrideAll_of_forFields
      (List.forall_mem_append.mpr ⟨hlower.forFields, hupper.forFields⟩) c
    obtain ⟨e, he, hsame⟩ := overrideAll_of_forFields (hlower.overlay hupper).forFields c
    rw [hd, he]
    refine congrArg Except.ok (ext_get fun key => ?_)
    rw [hget, hsame, lastGiven?_overlay]
  case void =>
    intro overrides hnameable hvoid
    obtain ⟨d, hd, hget⟩ := overrideAll_of_forFields (fun o ho hgives => absurd hgives (hvoid o ho)) c
    rw [merge_of_ne hnameable, hd]
    refine congrArg Except.ok (ext_get fun key => ?_)
    rw [hget, lastGiven?_of_void hvoid]
    rfl
  case refused =>
    intro front layer back hfront hlayer
    obtain ⟨d, hd, -⟩ := hlast front hfront
    obtain ⟨f, hf⟩ := exists_refusal hlayer
    refine ⟨d, f, hd, hf, hf.merge d, ?_⟩
    rw [mergeLayers, List.foldlM_append, ← mergeLayers, hd, Attempt.ok_bind, List.foldlM_cons,
      hf.merge]
    rfl

/-- The name of the configuration itself is refused even without a value. -/
theorem merge_ownName_void : ¬ ∀ (c : Config) (overrides : List (String × Value)),
    (∀ o ∈ overrides, ¬ Gives o) → c.merge overrides = .ok c := by
  intro h
  have hnot : ∀ o ∈ [(ownName, Value.none)], ¬ Gives o := by simp [Gives]
  cases h {} [(ownName, .none)] hnot

end Config

end Assay
