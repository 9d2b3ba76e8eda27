import Assay.Proofs.JsonReading
import Assay.Proofs.Sorting
import Assay.Value.Canonical
import Mathlib.Algebra.Ring.Int.Defs
import Mathlib.Data.List.Perm.Basic

/-! # Canonical texts

The canonical text of a value loses nothing but the order of fields: reading it gives the value back
with the fields of each object in the order of their names, and values have the same text exactly if
they are alike but for the order of fields.
-/

namespace Assay.Json

/-! ## Values that are alike -/

mutual

/-- Whether values are the same but for the order of fields, however deep the fields lie. -/
def Alike : Json → Json → Prop
  | null, null => True
  | bool a, bool b => a = b
  | int m, int n => m = n
  | float x, float y => x = y
  | text s, text t => s = t
  | array js, array ks => AlikeItems js ks
  | object fs, object gs => ∃ hs : List (String × Json), hs.Perm gs ∧ AlikeFields fs hs
  | _, _ => False

/-- Whether items are alike one by one. -/
def AlikeItems : List Json → List Json → Prop
  | [], [] => True
  | j :: js, k :: ks => Alike j k ∧ AlikeItems js ks
  | _, _ => False

/-- Whether fields have the same names and are alike one by one. -/
def AlikeFields : List (String × Json) → List (String × Json) → Prop
  | [], [] => True
  | (name, j) :: fs, (other, k) :: gs => name = other ∧ Alike j k ∧ AlikeFields fs gs
  | _, _ => False

end

/-! ## Order of fields -/

mutual

/-- In all objects of a value each field has a greater name than the one before it. -/
def Ascending : Json → Prop
  | array items => AscendingItems items
  | object fields => fields.Pairwise (fun f g => f.1 < g.1) ∧ AscendingFields fields
  | _ => True

/-- The objects in the items have their fields in order. -/
def AscendingItems : List Json → Prop
  | [] => True
  | j :: rest => Ascending j ∧ AscendingItems rest

/-- The objects in the fields have their fields in order. -/
def AscendingFields : List (String × Json) → Prop
  | [] => True
  | (_, j) :: rest => Ascending j ∧ AscendingFields rest

end

theorem canonicalItems_eq_map (items : List Json) : canonicalItems items = items.map canonical := by
  induction items with
  | nil => rfl
  | cons j rest ih => rw [canonicalItems, ih, List.map_cons]

theorem canonicalFields_eq_map (fields : List (String × Json)) :
    canonicalFields fields = fields.map fun f => (f.1, f.2.canonical) := by
  induction fields with
  | nil => rfl
  | cons f rest ih => rw [canonicalFields, ih, List.map_cons]

theorem names_canonicalFields (fields : List (String × Json)) :
    (canonicalFields fields).map Prod.fst = fields.map Prod.fst := by
  rw [canonicalFields_eq_map, List.map_map]
  rfl

theorem insertField_eq (f : String × Json) (fields : List (String × Json)) :
    insertField f fields = Value.insertByKey Prod.fst f fields := by
  induction fields with
  | nil => rfl
  | cons g rest ih =>
      simp only [insertField, Value.insertByKey, Value.insertBy, decide_eq_true_eq, ih]

theorem sortFields_perm (fields : List (String × Json)) : (sortFields fields).Perm fields := by
  induction fields with
  | nil => exact List.Perm.refl _
  | cons f rest ih =>
      rw [sortFields, List.foldr_cons, insertField_eq]
      exact (Value.insertBy_perm _ f _).trans (ih.cons f)

theorem sortFields_ascending (fields : List (String × Json)) :
    Value.Ascending Prod.fst (sortFields fields) := by
  induction fields with
  | nil => exact List.Pairwise.nil
  | cons f rest ih =>
      rw [sortFields, List.foldr_cons, insertField_eq]
      exact Value.insertBy_ascending Prod.fst f ih

/-- Fields without repeated names are sorted strictly. -/
theorem sortFields_strict {fields : List (String × Json)} (h : (fields.map Prod.fst).Nodup) :
    (sortFields fields).Pairwise fun f g => f.1 < g.1 := by
  have hnames : ((sortFields fields).map Prod.fst).Nodup :=
    ((sortFields_perm fields).map Prod.fst).nodup_iff.mpr h
  exact (sortFields_ascending fields).and (List.pairwise_map.mp hnames) |>.imp
    fun ⟨hle, hne⟩ => lt_of_le_of_ne hle hne

/-- Sorted fields are known by what is among them. -/
theorem sortFields_eq_iff {fs gs : List (String × Json)} (hf : (fs.map Prod.fst).Nodup)
    (hg : (gs.map Prod.fst).Nodup) : sortFields fs = sortFields gs ↔ fs.Perm gs := by
  constructor
  · intro h
    exact (sortFields_perm fs).symm.trans (h ▸ sortFields_perm gs)
  · intro h
    exact List.Perm.eq_of_pairwise (fun _ _ _ _ hlt hgt => absurd hlt hgt.asymm)
      (sortFields_strict hf) (sortFields_strict hg)
      ((sortFields_perm fs).trans (h.trans (sortFields_perm gs).symm))

theorem areExact_iff (items : List Json) :
    areExact items = true ↔ ∀ j ∈ items, j.isExact = true := by
  induction items with
  | nil => simp [areExact]
  | cons j rest ih => simp [areExact, ih]

theorem fieldsExact_iff (fields : List (String × Json)) :
    fieldsExact fields = true ↔ ∀ f ∈ fields, f.2.isExact = true := by
  induction fields with
  | nil => simp [fieldsExact]
  | cons f rest ih => simp [fieldsExact, ih]

theorem distinctItems_iff (items : List Json) :
    DistinctItems items ↔ ∀ j ∈ items, j.Distinct := by
  induction items with
  | nil => simp [DistinctItems]
  | cons j rest ih => simp [DistinctItems, ih]

theorem distinctFields_iff (fields : List (String × Json)) :
    DistinctFields fields ↔ ∀ f ∈ fields, f.2.Distinct := by
  induction fields with
  | nil => simp [DistinctFields]
  | cons f rest ih => simp [DistinctFields, ih]

theorem ascendingItems_iff (items : List Json) :
    AscendingItems items ↔ ∀ j ∈ items, j.Ascending := by
  induction items with
  | nil => simp [AscendingItems]
  | cons j rest ih => simp [AscendingItems, ih]

theorem ascendingFields_iff (fields : List (String × Json)) :
    AscendingFields fields ↔ ∀ f ∈ fields, f.2.Ascending := by
  induction fields with
  | nil => simp [AscendingFields]
  | cons f rest ih => simp [AscendingFields, ih]

theorem mem_canonicalItems {items : List Json} {k : Json} :
    k ∈ canonicalItems items ↔ ∃ j ∈ items, j.canonical = k := by
  rw [canonicalItems_eq_map, List.mem_map]

/-- The fields of a canonical object are those of the object with canonical values. -/
theorem mem_sortFields_canonicalFields {fields : List (String × Json)} {g : String × Json} :
    g ∈ sortFields (canonicalFields fields) ↔ ∃ f ∈ fields, (f.1, f.2.canonical) = g := by
  rw [(sortFields_perm _).mem_iff, canonicalFields_eq_map, List.mem_map]

/-! ## The canonical form -/

mutual

theorem isExact_canonical : (j : Json) → j.isExact = true → j.canonical.isExact = true
  | .array items, h => by
      have hitems := items_isExact_canonical items h
      rw [canonical, isExact, areExact_iff]
      simpa [mem_canonicalItems] using hitems
  | .object fields, h => by
      have hfields := fields_isExact_canonical fields h
      rw [canonical, isExact, fieldsExact_iff]
      intro g hg
      obtain ⟨f, hf, rfl⟩ := mem_sortFields_canonicalFields.mp hg
      exact hfields f hf
  | .null, h | .bool _, h | .int _, h | .float _, h | .text _, h => h

theorem items_isExact_canonical : (items : List Json) → areExact items = true →
    ∀ j ∈ items, j.canonical.isExact = true
  | [], _ => List.forall_mem_nil _
  | j :: rest, h =>
      have h := Bool.and_eq_true_iff.mp h
      List.forall_mem_cons.mpr ⟨isExact_canonical j h.1, items_isExact_canonical rest h.2⟩

theorem fields_isExact_canonical : (fields : List (String × Json)) → fieldsExact fields = true →
    ∀ f ∈ fields, f.2.canonical.isExact = true
  | [], _ => List.forall_mem_nil _
  | (_, j) :: rest, h =>
      have h := Bool.and_eq_true_iff.mp h
      List.forall_mem_cons.mpr ⟨isExact_canonical j h.1, fields_isExact_canonical rest h.2⟩

end

theorem nodup_names_canonical {fields : List (String × Json)} (h : (fields.map Prod.fst).Nodup) :
    ((canonicalFields fields).map Prod.fst).Nodup := by
  rwa [names_canonicalFields]

mutual

/-- The canonical form of a value that repeats no name repeats none, and its fields are in order. -/
theorem distinct_canonical : (j : Json) → j.Distinct → j.canonical.Distinct ∧ j.canonical.Ascending
  | .array items, h => by
      have hitems := items_distinct_canonical items h
      rw [canonical, Distinct, Ascending, distinctItems_iff, ascendingItems_iff]
      simpa [mem_canonicalItems, forall_and] using hitems
  | .object fields, h => by
      have hfields := fields_distinct_canonical fields h.2
      have hnames := nodup_names_canonical h.1
      have hmem : ∀ g ∈ sortFields (canonicalFields fields), g.2.Distinct ∧ g.2.Ascending := by
        intro g hg
        obtain ⟨f, hf, rfl⟩ := mem_sortFields_canonicalFields.mp hg
        exact hfields f hf
      rw [canonical, Distinct, Ascending, distinctFields_iff, ascendingFields_iff]
      exact ⟨⟨((sortFields_perm _).map Prod.fst).nodup_iff.mpr hnames, fun g hg => (hmem g hg).1⟩,
        sortFields_strict hnames, fun g hg => (hmem g hg).2⟩
  | .null, _ | .bool _, _ | .int _, _ | .float _, _ | .text _, _ => ⟨trivial, trivial⟩

theorem items_distinct_canonical : (items : List Json) → DistinctItems items →
    ∀ j ∈ items, j.canonical.Distinct ∧ j.canonical.Ascending
  | [], _ => List.forall_mem_nil _
  | j :: rest, h =>
      List.forall_mem_cons.mpr ⟨distinct_canonical j h.1, items_distinct_canonical rest h.2⟩

theorem fields_distinct_canonical : (fields : List (String × Json)) → DistinctFields fields →
    ∀ f ∈ fields, f.2.canonical.Distinct ∧ f.2.canonical.Ascending
  | [], _ => List.forall_mem_nil _
  | (_, j) :: rest, h =>
      List.forall_mem_cons.mpr ⟨distinct_canonical j h.1, fields_distinct_canonical rest h.2⟩

end

/-- A permutation of mapped items is what a permutation of the items is mapped to. -/
theorem exists_perm_of_perm_map {α β : Type} {f : α → β} {xs : List α} {ys : List β}
    (h : ys.Perm (xs.map f)) : ∃ zs : List α, zs.Perm xs ∧ zs.map f = ys := by
  have hall : List.Forall₂ (fun y x => y = f x) (xs.map f) xs :=
    List.forall₂_map_left_iff.mpr (List.forall₂_same.mpr fun _ _ => rfl)
  obtain ⟨zs, hzs, hperm⟩ := List.perm_comp_forall₂ h hall
  refine ⟨zs, hperm, ?_⟩
  have heq : List.Forall₂ Eq ys (zs.map f) := List.forall₂_map_right_iff.mpr hzs
  exact (List.forall₂_eq_eq_eq ▸ heq).symm

mutual

/-- Values with the same canonical form are alike. -/
theorem alike_of_canonical_eq : (j k : Json) → j.canonical = k.canonical → Alike j k
  | .array js, k, h => by
      cases k with
      | array ks => exact alikeItems_of_canonical_eq js ks (array.inj h)
      | _ => simp [canonical] at h
  | .object fs, k, h => by
      cases k with
      | object gs =>
          have hperm : (canonicalFields fs).Perm (canonicalFields gs) :=
            (sortFields_perm _).symm.trans (object.inj h ▸ sortFields_perm _)
          rw [canonicalFields_eq_map gs] at hperm
          obtain ⟨hs, hhs, hmap⟩ := exists_perm_of_perm_map hperm
          rw [← canonicalFields_eq_map] at hmap
          exact ⟨hs, hhs, alikeFields_of_canonical_eq fs hs hmap.symm⟩
      | _ => simp [canonical] at h
  | .null, k, h | .bool _, k, h | .int _, k, h | .float _, k, h | .text _, k, h => by
      cases k <;> simp_all [canonical, Alike]

theorem alikeItems_of_canonical_eq : (js ks : List Json) →
    canonicalItems js = canonicalItems ks → AlikeItems js ks
  | [], [], _ => trivial
  | j :: js, k :: ks, h =>
      ⟨alike_of_canonical_eq j k (List.cons.inj h).1,
        alikeItems_of_canonical_eq js ks (List.cons.inj h).2⟩
  | [], _ :: _, h | _ :: _, [], h => nomatch h

theorem alikeFields_of_canonical_eq : (fs gs : List (String × Json)) →
    canonicalFields fs = canonicalFields gs → AlikeFields fs gs
  | [], [], _ => trivial
  | (_, j) :: fs, (_, k) :: gs, h =>
      have hfield := Prod.mk.inj (List.cons.inj h).1
      ⟨hfield.1, alike_of_canonical_eq j k hfield.2,
        alikeFields_of_canonical_eq fs gs (List.cons.inj h).2⟩
  | [], _ :: _, h | _ :: _, [], h => nomatch h

end

mutual

/-- Values that are alike and repeat no name have the same canonical form. -/
theorem canonical_eq_of_alike : (j k : Json) → j.Distinct → k.Distinct → Alike j k →
    j.canonical = k.canonical
  | .array js, k, hj, hk, h => by
      cases k with
      | array ks => rw [canonical, canonical, canonicalItems_eq_of_alike js ks hj hk h]
      | _ => exact h.elim
  | .object fs, k, hj, hk, h => by
      cases k with
      | object gs =>
          obtain ⟨hs, hperm, halike⟩ := h
          have hdistinct : DistinctFields hs :=
            (distinctFields_iff hs).mpr fun f hf =>
              (distinctFields_iff gs).mp hk.2 f (hperm.mem_iff.mp hf)
          have hfields := canonicalFields_eq_of_alike fs hs hj.2 hdistinct halike
          rw [canonical, canonical, object.injEq]
          refine (sortFields_eq_iff (nodup_names_canonical hj.1)
            (nodup_names_canonical hk.1)).mpr ?_
          rw [hfields, canonicalFields_eq_map, canonicalFields_eq_map]
          exact hperm.map _
      | _ => exact h.elim
  | .null, k, _, _, h | .bool _, k, _, _, h | .int _, k, _, _, h | .float _, k, _, _, h
  | .text _, k, _, _, h => by
      cases k <;> simp_all [canonical, Alike]

theorem canonicalItems_eq_of_alike : (js ks : List Json) → DistinctItems js → DistinctItems ks →
    AlikeItems js ks → canonicalItems js = canonicalItems ks
  | [], [], _, _, _ => rfl
  | j :: js, k :: ks, hj, hk, h => by
      rw [canonicalItems, canonicalItems, canonical_eq_of_alike j k hj.1 hk.1 h.1,
        canonicalItems_eq_of_alike js ks hj.2 hk.2 h.2]
  | [], _ :: _, _, _, h | _ :: _, [], _, _, h => h.elim

theorem canonicalFields_eq_of_alike : (fs gs : List (String × Json)) → DistinctFields fs →
    DistinctFields gs → AlikeFields fs gs → canonicalFields fs = canonicalFields gs
  | [], [], _, _, _ => rfl
  | (name, j) :: fs, (other, k) :: gs, hf, hg, h => by
      obtain ⟨rfl, hvalue, hrest⟩ := h
      rw [canonicalFields, canonicalFields, canonical_eq_of_alike j k hf.1 hg.1 hvalue,
        canonicalFields_eq_of_alike fs gs hf.2 hg.2 hrest]
  | [], _ :: _, _, _, h | _ :: _, [], _, _, h => h.elim

end

theorem sortFields_of_pairwise {fields : List (String × Json)}
    (h : fields.Pairwise fun f g => f.1 < g.1) : sortFields fields = fields := by
  have hnames : (fields.map Prod.fst).Nodup :=
    List.pairwise_map.mpr (h.imp fun hlt => hlt.ne)
  exact List.Perm.eq_of_pairwise (fun _ _ _ _ hlt hgt => absurd hlt hgt.asymm)
    (sortFields_strict hnames) h (sortFields_perm fields)

mutual

/-- A value with its fields in order is its own canonical form. -/
theorem canonical_of_ascending : (j : Json) → j.Ascending → j.canonical = j
  | .array items, h => by rw [canonical, canonicalItems_of_ascending items h]
  | .object fields, h => by
      rw [canonical, canonicalFields_of_ascending fields h.2, sortFields_of_pairwise h.1]
  | .null, _ | .bool _, _ | .int _, _ | .float _, _ | .text _, _ => rfl

theorem canonicalItems_of_ascending : (items : List Json) → AscendingItems items →
    canonicalItems items = items
  | [], _ => rfl
  | j :: rest, h => by
      rw [canonicalItems, canonical_of_ascending j h.1, canonicalItems_of_ascending rest h.2]

theorem canonicalFields_of_ascending : (fields : List (String × Json)) → AscendingFields fields →
    canonicalFields fields = fields
  | [], _ => rfl
  | (_, j) :: rest, h => by
      rw [canonicalFields, canonical_of_ascending j h.1, canonicalFields_of_ascending rest h.2]

end

/-- Only the order of fields is another one in the canonical form. -/
theorem alike_canonical {j : Json} (h : j.Distinct) : Alike j.canonical j :=
  alike_of_canonical_eq _ _ (canonical_of_ascending _ (distinct_canonical j h).2)

end Assay.Json

namespace Assay.Value

open Json

/-! ## Values as JSON -/

theorem names_setField (name : String) (j : Json) (fields : List (String × Json)) :
    (setField name j fields).map Prod.fst =
      if name ∈ fields.map Prod.fst then fields.map Prod.fst
      else fields.map Prod.fst ++ [name] := by
  induction fields with
  | nil => rfl
  | cons f rest ih =>
      unfold setField
      by_cases hname : f.1 = name
      · simp [hname]
      · simp only [beq_iff_eq, hname, if_false, List.map_cons, ih, List.mem_cons, Ne.symm hname,
          false_or]
        split <;> rfl

/-- Setting a field repeats no name. -/
theorem nodup_setField {name : String} {j : Json} {fields : List (String × Json)}
    (h : (fields.map Prod.fst).Nodup) : ((setField name j fields).map Prod.fst).Nodup := by
  rw [names_setField]
  split
  next => exact h
  next hnew =>
    exact List.nodup_append.mpr ⟨h, List.nodup_singleton name, fun a ha b hb heq =>
      hnew (List.mem_singleton.mp hb ▸ heq ▸ ha)⟩

theorem distinct_setField {name : String} {j : Json} {fields : List (String × Json)}
    (hj : j.Distinct) (h : DistinctFields fields) : DistinctFields (setField name j fields) := by
  induction fields with
  | nil => exact ⟨hj, trivial⟩
  | cons f rest ih =>
      unfold setField
      split
      · exact ⟨hj, h.2⟩
      · exact ⟨h.1, ih h.2⟩

mutual

/-- However often the keys of a mapping have the same text, no object has a name twice. -/
theorem distinct_toJson : (v : Value) → v.toJson.Distinct
  | list items | tuple items | set _ items => distinct_toJsonItems items
  | mapping entries => distinct_toJsonFields entries List.nodup_nil trivial
  | member _ _ _ value | record _ _ value => distinct_toJson value
  | none | bool _ | int _ | float _ | text _ | bytes _ | path _ | thing .. => trivial

theorem distinct_toJsonItems : (items : List Value) → DistinctItems (toJsonItems items)
  | [] => trivial
  | v :: rest => ⟨distinct_toJson v, distinct_toJsonItems rest⟩

theorem distinct_toJsonFields : (entries : List (Value × Value)) →
    ∀ {done : List (String × Json)}, (done.map Prod.fst).Nodup → DistinctFields done →
      ((toJsonFields done entries).map Prod.fst).Nodup ∧
        DistinctFields (toJsonFields done entries)
  | [], _, hnames, hdone => ⟨hnames, hdone⟩
  | (_, v) :: rest, _, hnames, hdone =>
      distinct_toJsonFields rest (nodup_setField hnames)
        (distinct_setField (distinct_toJson v) hdone)

end

/-! ## Canonical texts of values -/

/-- What the canonical text of a value is: a JSON text and a line end, with the fields of each object
in the order of their names, from which the value is read back. -/
def IsWritten (i : Indent) (v : Value) (t : String) : Prop :=
  ∃ j, t = render i 0 j ++ "\n" ∧ parse? t = some j ∧ j.Alike v.toJson ∧ j.Ascending

theorem isWritten_canonicalText (i : Indent) {v : Value} (hv : v.toJson.isExact = true) :
    v.IsWritten i (Json.canonicalText i v.toJson) := by
  obtain ⟨hdistinct, hascending⟩ := distinct_canonical v.toJson (distinct_toJson v)
  have hread := parse?_render i (isExact_canonical v.toJson hv) hdistinct
  refine ⟨v.toJson.canonical, rfl, hread, alike_canonical (distinct_toJson v), hascending⟩

/-- Values whose texts are read back have the same text exactly if they are alike. -/
theorem canonicalText_eq_iff (i : Indent) {v w : Value} (hv : v.toJson.isExact = true)
    (hw : w.toJson.isExact = true) :
    Json.canonicalText i v.toJson = Json.canonicalText i w.toJson ↔ v.toJson.Alike w.toJson := by
  constructor
  · intro h
    have hread := parse?_render i (isExact_canonical v.toJson hv)
      (distinct_canonical v.toJson (distinct_toJson v)).1
    have hother := parse?_render i (isExact_canonical w.toJson hw)
      (distinct_canonical w.toJson (distinct_toJson w)).1
    refine alike_of_canonical_eq _ _ (Option.some.inj ?_)
    calc some v.toJson.canonical = parse? (Json.canonicalText i v.toJson) := hread.symm
      _ = parse? (Json.canonicalText i w.toJson) := by rw [h]
      _ = some w.toJson.canonical := hother
  · intro h
    rw [Json.canonicalText, Json.canonicalText,
      canonical_eq_of_alike _ _ (distinct_toJson v) (distinct_toJson w) h]

/-- A value without floating-point numbers has a canonical text unless one of its keys has no text, or
a number is too long that is left when later keys have replaced earlier ones. It is read back from the
text, and other values with the same text are alike. -/
theorem canonicalText_faithful (i : Indent) (v w : Value) (hv : v.toJson.isExact = true)
    (hw : w.toJson.isExact = true) :
    (v.hasTooLongKey = true ∨ v.toJson.isTooLong = true → v.canonicalText i = .error tooLong) ∧
      (v.hasTooLongKey = false → v.toJson.isTooLong = false →
        ∃ t, v.canonicalText i = .ok t ∧ v.IsWritten i t) ∧
      ∀ t u, v.canonicalText i = .ok t → w.canonicalText i = .ok u →
        (t = u ↔ v.toJson.Alike w.toJson) := by
  refine ⟨fun hlong => if_pos (by simpa using hlong), fun hkeys hshort => ?_, fun t u ht hu => ?_⟩
  · exact ⟨_, if_neg (by simp [hkeys, hshort]), isWritten_canonicalText i hv⟩
  · have htext : ∀ {x : Value} {s : String}, x.canonicalText i = .ok s →
        s = Json.canonicalText i x.toJson := by
      intro x s hs
      unfold Value.canonicalText at hs
      split at hs
      next => cases hs
      next => exact (Except.ok.inj hs).symm
    rw [htext ht, htext hu]
    exact canonicalText_eq_iff i hv hw

/-- Mappings with their keys in another order, one of them with a tuple, have the same text. -/
theorem canonicalText_faithful_swapped :
    let v : Value := .mapping [(.text "b", .tuple [.bool true, .int (-5)]), (.text "a", .text "\n")]
    let w : Value := .mapping [(.text "a", .text "\n"), (.text "b", .list [.bool true, .int (-5)])]
    v.toJson.isExact = true ∧ w.toJson.isExact = true ∧
      v.hasTooLongKey = false ∧ v.toJson.isTooLong = false ∧
      ∃ t, v.canonicalText (.lines 2) = .ok t ∧ v.IsWritten (.lines 2) t ∧
        w.canonicalText (.lines 2) = .ok t := by
  intro v w
  have hv : v.toJson.isExact = true := by decide
  have hw : w.toJson.isExact = true := by decide
  have hkeys : v.hasTooLongKey = false ∧ w.hasTooLongKey = false := by decide +kernel
  have hshort : v.toJson.isTooLong = false ∧ w.toJson.isTooLong = false := by decide +kernel
  have halike : v.toJson.Alike w.toJson :=
    ⟨[("b", .array [.bool true, .int (-5)]), ("a", .text "\n")], List.Perm.swap ..,
      rfl, ⟨rfl, rfl, trivial⟩, rfl, rfl, trivial⟩
  obtain ⟨_, hwritten, hsame⟩ := canonicalText_faithful (.lines 2) v w hv hw
  obtain ⟨t, ht, hread⟩ := hwritten hkeys.1 hshort.1
  obtain ⟨_, hother, _⟩ := canonicalText_faithful (.lines 2) w v hw hv
  obtain ⟨u, hu, _⟩ := hother hkeys.2 hshort.2
  exact ⟨hv, hw, hkeys.1, hshort.1, t, ht, hread, by rw [(hsame t u ht hu).mpr halike, hu]⟩

/-- A number of 4301 digits has no text. -/
theorem canonicalText_too_long :
    (Value.int (10 ^ 4300)).canonicalText (.lines 2) = .error tooLong := by
  refine if_pos ?_
  decide +kernel

/-- A number that a later key with the same text replaces may be too long. -/
example : (Value.mapping [(.int 1, .int (10 ^ 5000)), (.text "1", .int 0)]).canonicalText (.lines 2) =
    .ok "\x7b\n  \"1\": 0\n\x7d\n" := by
  decide +kernel

end Assay.Value
