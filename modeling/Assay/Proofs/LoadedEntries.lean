import Assay.Proofs.ConfigurationFile
import Assay.Proofs.Overrides

/-! # What configurations are loaded from

A mapping from names to values is a configuration if all of its names are those of fields, and each
field takes its value. The order of the names is seen only in what the mapping is refused for.
Configurations can be written as mappings and loaded again.
-/

namespace Assay.Config

/-! ## Names and values -/

/-- Whether a key names a field that can be in a mapping: any except the source. -/
def IsLoaded (k : Value) : Prop := ∃ key : ConfigKey, key ≠ .source ∧ Names k key

/-- The entries of a mapping from names to values. No name is there twice. -/
structure AreNamed (entries : List (Value × Value)) : Prop where
  textual : ∀ e ∈ entries, e.1.IsTextual
  distinct : (entries.map fun e => e.1.text?).Nodup

theorem AreNamed.perm {entries others : List (Value × Value)} (h : AreNamed entries)
    (hperm : others.Perm entries) : AreNamed others :=
  ⟨fun e he => h.textual e (hperm.mem_iff.mp he), (hperm.map _).nodup_iff.mpr h.distinct⟩

/-- The value that a field has after it is loaded: a single text is a list of one, and any value but
nothing is written out if the field has no list. -/
def loaded (key : ConfigKey) (v : Value) : Value :=
  if key.isList then
    match v with
    | .list vs => .tuple vs
    | v => .tuple [v]
  else if key = .verbose then .bool v.isTrue
  else match v with
    | .none => .none
    | v => .text v.str

/-! ## Loading values -/

/-- The failure for a value that a field does not take, by the key that names the field. -/
def refusalOf (key : ConfigKey) (k : Value) : Failure :=
  if key.isList then misfit k else Value.tooLong

theorem eq_single {key : ConfigKey} (hsource : key ≠ .source) (hlist : ¬ key.isList = true)
    (hverbose : key ≠ .verbose) : key = .report ∨ key = .codeRoot := by
  cases key <;> simp [ConfigKey.isList] at hsource hlist hverbose ⊢

section

variable {key : ConfigKey} {k v : Value} (hsource : key ≠ .source)

include hsource

theorem valueFor_of_takes (h : Takes key v) :
    valueFor key k v = .ok (some (loaded key v)) ∨
      valueFor key k v = .ok none ∧ loaded key v = key.default := by
  by_cases hlist : key.isList = true
  · left
    obtain ⟨vs, hvs⟩ := areTexts_iff.mp (h.texts hlist)
    have hloaded : loaded key v = .tuple vs := by
      unfold loaded
      rw [if_pos hlist]
      rcases (textsIn?_eq_some_iff.mp hvs).1 with ⟨htext, rfl⟩ | rfl
      · split
        next => exact absurd htext (by simp [Value.IsTextual, Value.text?])
        next => rfl
      · rfl
    simp only [valueFor, hlist, if_true, hvs, hloaded]
  · by_cases hverbose : key = .verbose
    · subst hverbose
      exact .inl rfl
    · have hshort := h.short (eq_single hsource hlist hverbose)
      cases v with
      | none =>
          right
          simp [valueFor, loaded, ConfigKey.default, hlist, hverbose]
      | _ =>
          left
          simp [valueFor, loaded, Value.str?, Except.map, hlist, hverbose, hshort]

theorem valueFor_of_not_takes (h : ¬ Takes key v) :
    valueFor key k v = .error (refusalOf key k) := by
  rcases valueFor_cases hsource k v with ⟨htakes, -⟩ | ⟨-, ⟨hlist, herror⟩ | ⟨hsingle, -, herror⟩⟩
  · exact absurd htakes h
  · rw [herror, refusalOf, if_pos hlist]
  · have hlist : ¬ key.isList = true := by rcases hsingle with rfl | rfl <;> decide
    rw [herror, refusalOf, if_neg hlist]

/-- A value that its field takes is loaded into this field only. -/
theorem assign_cons_of_takes (hnames : Names k key) (htakes : Takes key v) {c : Config}
    (hdefault : c.get key = key.default) (rest : List (Value × Value)) :
    ∃ d : Config, c.assign ((k, v) :: rest) = d.assign rest ∧ d.get key = loaded key v ∧
      ∀ other, other ≠ key → d.get other = c.get other := by
  rw [assign_cons c hnames]
  rcases valueFor_of_takes (k := k) hsource htakes with hvalue | ⟨hvalue, hnone⟩
  · rw [hvalue, Attempt.ok_bind]
    exact ⟨c.set key (loaded key v), rfl, get_set_self .., fun other hne => get_set_of_ne c _ hne⟩
  · -- what is nothing leaves the default, which is what comes of it
    rw [hvalue, Attempt.ok_bind]
    exact ⟨c, rfl, hdefault.trans hnone.symm, fun _ _ => rfl⟩

end

/-- Values that their fields take are loaded, each into its field. -/
theorem assign_of_isTaken {entries : List (Value × Value)} (htaken : ∀ e ∈ entries, IsTaken e)
    (hdistinct : (entries.map fun e => e.1.text?).Nodup) {c : Config}
    (hdefault : ∀ e ∈ entries, ∀ key, Names e.1 key → c.get key = key.default) :
    ∃ d, c.assign entries = .ok d ∧
      (∀ e ∈ entries, ∀ key, Names e.1 key → d.get key = loaded key e.2) ∧
      ∀ key, (∀ e ∈ entries, ¬ Names e.1 key) → d.get key = c.get key := by
  induction entries generalizing c with
  | nil => exact ⟨c, rfl, List.forall_mem_nil _, fun _ _ => rfl⟩
  | cons e rest ih =>
      obtain ⟨k, v⟩ := e
      rw [List.forall_mem_cons] at htaken hdefault
      rw [List.map_cons, List.nodup_cons] at hdistinct
      obtain ⟨⟨key, hsource, hnames, htakes⟩, hrest⟩ := htaken
      obtain ⟨next, hnext, hself, hother⟩ :=
        assign_cons_of_takes hsource hnames htakes (hdefault.1 key hnames) rest
      -- the names of the rest are others
      have hapart : ∀ e ∈ rest, ∀ other, Names e.1 other → other ≠ key := by
        rintro e he other hname rfl
        exact hdistinct.1 (List.mem_map.mpr ⟨e, he, hname.trans hnames.symm⟩)
      have hdefaults : ∀ e ∈ rest, ∀ other, Names e.1 other →
          next.get other = other.default := by
        intro e he other hname
        rw [hother other (hapart e he other hname), hdefault.2 e he other hname]
      obtain ⟨d, hd, hgiven, habsent⟩ := ih hrest hdistinct.2 hdefaults
      refine ⟨d, hnext.trans hd, List.forall_mem_cons.mpr ⟨?_, hgiven⟩, fun other hnone => ?_⟩
      · intro other hname
        obtain rfl := hnames.unique hname
        rw [habsent other fun e he hmore => hapart e he other hmore rfl, hself]
      · rw [List.forall_mem_cons] at hnone
        have hne : other ≠ key := by
          rintro rfl
          exact hnone.1 hnames
        rw [habsent other hnone.2, hother other hne]

/-! ## What loading does -/

/-- Where a mapping is from, in what it is refused with. -/
def placeOf (source : Value) : String := if source.isTrue then " in " ++ source.str else ""

/-- A configuration with the values of a mapping. -/
structure IsFrom (c : Config) (entries : List (Value × Value)) (source : Value) : Prop where
  given : ∀ k v key, (k, v) ∈ entries → Names k key → c.get key = loaded key v
  absent : ∀ key, key ≠ .source → (∀ e ∈ entries, ¬ Names e.1 key) → c.get key = key.default
  place : c.get .source = source

/-- What comes of loading a mapping. -/
structure Loading (entries : List (Value × Value)) (source : Value) : Prop where
  /-- It is a configuration if all names are those of fields, and these take their values. -/
  accepted : (∃ c, ofEntries entries source = .ok c) ↔ ∀ e ∈ entries, IsTaken e
  /-- All names that are not known are told, in order. -/
  unknown : ¬ (∀ e ∈ entries, IsLoaded e.1) → ∃ names : List String, names.Pairwise (· < ·) ∧
    (∀ name, name ∈ names ↔ ∃ e ∈ entries, e.1.text? = some name ∧ ¬ IsLoaded e.1) ∧
    ofEntries entries source = .error (.config
      ("Unknown configuration key(s)" ++ placeOf source ++ ": " ++ Value.commaed names))
  /-- If all names are known, the first field that does not take its value is told. -/
  misfit : ∀ front k v back key, entries = front ++ (k, v) :: back →
    (∀ e ∈ entries, IsLoaded e.1) → (∀ e ∈ front, IsTaken e) → Names k key → ¬ Takes key v →
    ofEntries entries source = .error (refusalOf key k)
  decoded : ∀ c, ofEntries entries source = .ok c → c.IsFrom entries source
  /-- The order of the names does not matter. -/
  reordered : ∀ c others, ofEntries entries source = .ok c → others.Perm entries →
    ofEntries others source = .ok c

section

variable {entries : List (Value × Value)}

/-- A mapping that fields take is a configuration with their values. -/
theorem ofEntries_of_isTaken (hdistinct : (entries.map fun e => e.1.text?).Nodup)
    (h : ∀ e ∈ entries, IsTaken e) (source : Value) :
    ∃ d, ofEntries entries source = .ok d ∧ d.IsFrom entries source := by
  obtain ⟨d, hd, hgiven, habsent⟩ := assign_of_isTaken h hdistinct (c := {}) fun _ _ _ _ => rfl
  refine ⟨d.set .source source, ?_, fun k v key hmem hnames => ?_, fun key hkey hnone => ?_,
    get_set_self ..⟩
  · rw [ofEntries_of_known fun e he => (h e he).isKnown, hd]
    rfl
  · obtain ⟨other, hsource, hother, -⟩ := h (k, v) hmem
    rw [get_set_of_ne d source (hnames.unique hother ▸ hsource), hgiven (k, v) hmem key hnames]
  · rw [get_set_of_ne d source hkey, habsent key hnone]

/-- The values of a mapping say all of a configuration. -/
theorem IsFrom.unique {c d : Config} {others : List (Value × Value)} {source : Value}
    (hc : c.IsFrom entries source) (hd : d.IsFrom others source)
    (hmem : ∀ e, e ∈ others ↔ e ∈ entries) : d = c := by
  refine ext_get fun key => ?_
  by_cases hsource : key = .source
  · rw [hsource, hc.place, hd.place]
  · by_cases hgiven : ∃ e ∈ entries, Names e.1 key
    · obtain ⟨⟨k, v⟩, he, hnames⟩ := hgiven
      rw [hc.given k v key he hnames, hd.given k v key ((hmem _).mpr he) hnames]
    · simp only [not_exists, not_and] at hgiven
      rw [hc.absent key hsource hgiven,
        hd.absent key hsource fun e he => hgiven e ((hmem e).mp he)]

/-- The text of a key. -/
def nameOf (k : Value) : String := k.text?.getD ""

theorem text?_of_mem_unknownOf (hnamed : AreNamed entries) {k : Value} (hk : k ∈ unknownOf entries) :
    k.text? = some (nameOf k) := by
  obtain ⟨⟨e, he, rfl⟩, -⟩ := mem_unknownOf.mp hk
  obtain ⟨s, hs⟩ := Option.isSome_iff_exists.mp (hnamed.textual e he)
  simp [nameOf, hs]

/-- No name is unknown twice. -/
theorem nodup_unknownOf (hnamed : AreNamed entries) : ((unknownOf entries).map nameOf).Nodup := by
  have hall : entries.map (fun e => e.1.text?) = (entries.map (·.1)).map Value.text? := by
    rw [List.map_map]
    rfl
  have htexts : ((unknownOf entries).map Value.text?).Nodup := by
    refine hnamed.distinct.sublist ?_
    rw [hall]
    exact List.filter_sublist.map _
  rw [List.map_congr_left fun k hk => text?_of_mem_unknownOf hnamed hk] at htexts
  exact List.Nodup.of_map some (by rwa [List.map_map])

/-- The unknown names are told in ascending order. -/
theorem ofEntries_of_unloaded (hnamed : AreNamed entries) (h : ¬ ∀ e ∈ entries, IsLoaded e.1)
    (source : Value) :
    ∃ names : List String, names.Pairwise (· < ·) ∧
      (∀ name, name ∈ names ↔ ∃ e ∈ entries, e.1.text? = some name ∧ ¬ IsLoaded e.1) ∧
      ofEntries entries source = .error (.config
        ("Unknown configuration key(s)" ++ placeOf source ++ ": " ++ Value.commaed names)) := by
  have hunknown : unknownOf entries ≠ [] := by
    intro hnil
    exact h fun e he => isKnown_iff.mp (unknownOf_eq_nil_iff.mp hnil e he)
  have hname : ∀ k ∈ unknownOf entries, k.text? = some (nameOf k) :=
    fun k hk => text?_of_mem_unknownOf hnamed hk
  have htextual : ∀ k ∈ unknownOf entries, k.IsTextual :=
    fun k hk => Option.isSome_iff_exists.mpr ⟨_, hname k hk⟩
  have hsorted : ∀ k ∈ Value.sortByKey nameOf (unknownOf entries), k ∈ unknownOf entries :=
    fun k hk => (Value.sortByKey_perm nameOf _).mem_iff.mp hk
  have hnames : (Value.sortByKey nameOf (unknownOf entries)).filterMap Value.text? =
      (Value.sortByKey nameOf (unknownOf entries)).map nameOf := by
    rw [← List.filterMap_eq_map]
    exact List.filterMap_congr fun k hk => hname k (hsorted k hk)
  refine ⟨(Value.sortByKey nameOf (unknownOf entries)).map nameOf, ?_, fun s => ?_, ?_⟩
  · exact List.pairwise_map.mpr (Value.sortByKey_strict nameOf (nodup_unknownOf hnamed))
  · simp only [List.mem_map, (Value.sortByKey_perm nameOf _).mem_iff]
    constructor
    · rintro ⟨k, hk, rfl⟩
      obtain ⟨⟨e, he, rfl⟩, hnot⟩ := mem_unknownOf.mp hk
      refine ⟨e, he, hname e.1 hk, fun hloaded => ?_⟩
      cases hnot.symm.trans (isKnown_iff.mpr hloaded)
    · rintro ⟨e, he, hs, hnot⟩
      have hk : e.1 ∈ unknownOf entries :=
        mem_unknownOf.mpr ⟨⟨e, he, rfl⟩, Bool.eq_false_iff.mpr (mt isKnown_iff.mp hnot)⟩
      exact ⟨e.1, hk, Option.some.inj ((hname e.1 hk).symm.trans hs)⟩
  · have hjoined := Value.joinTexts_textual fun k hk => htextual k (hsorted k hk)
    rw [hnames] at hjoined
    rw [ofEntries_of_unknown hunknown]
    have horder : Value.sorted (unknownOf entries) =
        .ok (Value.sortByKey nameOf (unknownOf entries)) := Value.sorted_textual htextual
    simp only [unknownKeys, horder]
    rw [hjoined]
    rfl

theorem ofEntries_of_misfit {front back : List (Value × Value)} {k v : Value} {key : ConfigKey}
    (hknown : ∀ e ∈ front ++ (k, v) :: back, IsLoaded e.1) (hfront : ∀ e ∈ front, IsTaken e)
    (hnames : Names k key) (h : ¬ Takes key v) (source : Value) :
    ofEntries (front ++ (k, v) :: back) source = .error (refusalOf key k) := by
  have hkeys : ∀ e ∈ front ++ (k, v) :: back, isKnown e.1 = true :=
    fun e he => isKnown_iff.mpr (hknown e he)
  obtain ⟨other, hsource, hother⟩ := hknown (k, v) (by simp)
  obtain rfl := hnames.unique hother
  rw [ofEntries_of_known hkeys, (assign_eq_error_iff hkeys {} _).mpr
    ⟨front, k, v, back, other, rfl, hfront, hnames, valueFor_of_not_takes hsource h⟩]
  rfl

theorem ofEntries_loads (hnamed : AreNamed entries) (source : Value) :
    Loading entries source := by
  have htaken : ∀ c, ofEntries entries source = .ok c → ∀ e ∈ entries, IsTaken e := by
    intro c hc
    by_contra hnot
    -- what is not taken fails for an unknown name, or for the first value that is not taken
    by_cases hknown : ∀ e ∈ entries, IsLoaded e.1
    · obtain ⟨front, ⟨k, v⟩, back, rfl, hfront, hv⟩ := exists_first hnot
      obtain ⟨key, hsource, hnames⟩ := hknown (k, v) (by simp)
      have hmisfit := ofEntries_of_misfit hknown hfront hnames
        (fun htakes => hv ⟨key, hsource, hnames, htakes⟩) source
      cases hmisfit.symm.trans hc
    · obtain ⟨names, -, -, herror⟩ := ofEntries_of_unloaded hnamed hknown source
      cases herror.symm.trans hc
  have hdecoded : ∀ c, ofEntries entries source = .ok c → c.IsFrom entries source := by
    intro c hc
    obtain ⟨d, hd, hfrom⟩ := ofEntries_of_isTaken hnamed.distinct (htaken c hc) source
    cases hc.symm.trans hd
    exact hfrom
  refine {
    accepted := ⟨fun ⟨c, hc⟩ => htaken c hc, fun h => ?_⟩
    unknown := fun h => ofEntries_of_unloaded hnamed h source
    misfit := ?misfit
    decoded := hdecoded
    reordered := ?reordered }
  · obtain ⟨d, hd, -⟩ := ofEntries_of_isTaken hnamed.distinct h source
    exact ⟨d, hd⟩
  case misfit =>
    rintro front k v back key rfl hknown hfront hnames hv
    exact ofEntries_of_misfit hknown hfront hnames hv source
  case reordered =>
    intro c others hc hperm
    obtain ⟨d, hd, hfrom⟩ := ofEntries_of_isTaken (hnamed.perm hperm).distinct
      (fun e he => htaken c hc e (hperm.mem_iff.mp he)) source
    rw [hd, (hdecoded c hc).unique hfrom fun e => hperm.mem_iff]

end

/-! ## Loading what was written -/

/-- A configuration with values of the types that its fields are declared with. A single text is one
that is written out as it is. -/
structure IsDeclared (c : Config) : Prop where
  lists : c.IsTextual
  singles : ∀ key, key = .report ∨ key = .codeRoot →
    c.get key = .none ∨ (c.get key).text? = some (c.get key).str
  verbose : ∃ b, c.get .verbose = .bool b

/-- The value of a field as a mapping has it: lists are not tuples there. -/
def writtenValue : Value → Value
  | .tuple vs => .list vs
  | v => v

/-- A configuration as a mapping from names to values, without its source. -/
def written (c : Config) : List (Value × Value) :=
  (ConfigKey.all.filter fun key => key ≠ .source).map fun key =>
    (.text key.name, writtenValue (c.get key))

theorem mem_all (key : ConfigKey) : key ∈ ConfigKey.all := by
  cases key with
  | treatAs severity => cases severity <;> decide
  | _ => decide

theorem names_text (key : ConfigKey) : Names (.text key.name) key := Value.text?_text _

theorem distinct_written (c : Config) : (c.written.map fun e => e.1.text?).Nodup := by
  have hnames : c.written.map (fun e => e.1.text?) =
      (ConfigKey.all.filter fun key => key ≠ .source).map fun key => some key.name := by
    rw [written, List.map_map]
    exact List.map_congr_left fun key _ => names_text key
  rw [hnames]
  decide

theorem sameItems_textual {vs : List Value} (h : ∀ v ∈ vs, v.IsTextual) :
    Value.sameItems vs vs = true := by
  induction vs with
  | nil => simp [Value.sameItems]
  | cons v rest ih =>
      rw [List.forall_mem_cons] at h
      obtain ⟨s, hs⟩ := Option.isSome_iff_exists.mp h.1
      rw [Value.sameItems, ih h.2, Value.same_of_text v v hs, hs]
      simp

theorem isTooLong_of_textual : (v : Value) → v.IsTextual → v.isTooLong = false
  | .text _, _ => rfl
  | .member _ _ kind v, h => by
      unfold Value.IsTextual Value.text? at h
      split at h
      next => cases h
      next => rw [Value.isTooLong, isTooLong_of_textual v h, Bool.and_false]

/-- What is written is taken again, and is the same as before. -/
theorem IsDeclared.takes {c : Config} (h : c.IsDeclared) {key : ConfigKey} (hkey : key ≠ .source) :
    Takes key (writtenValue (c.get key)) ∧
      (loaded key (writtenValue (c.get key))).same (c.get key) = true := by
  by_cases hlist : key.isList = true
  · obtain ⟨vs, hvs, htextual⟩ := h.lists key hlist
    rw [hvs, writtenValue]
    refine ⟨⟨fun _ => .inr ⟨vs, rfl, htextual⟩, fun hsingle => ?_⟩, ?_⟩
    · rcases hsingle with rfl | rfl <;> cases hlist
    · simp only [loaded, hlist, if_true, Value.same, sameItems_textual htextual]
  · by_cases hverbose : key = .verbose
    · subst hverbose
      obtain ⟨b, hb⟩ := h.verbose
      rw [hb]
      refine ⟨⟨fun htrue => absurd htrue hlist, fun hsingle => by simp at hsingle⟩, ?_⟩
      simp [loaded, ConfigKey.isList, writtenValue, Value.isTrue, Value.same, Value.sameNumbers,
        Value.number?, Value.sameNumber]
    · rcases h.singles key (eq_single hkey hlist hverbose) with hnone | htext
      · rw [hnone]
        refine ⟨⟨fun htrue => absurd htrue hlist, fun _ => rfl⟩, ?_⟩
        simp [loaded, writtenValue, hlist, hverbose, Value.same]
      · have htextual : (c.get key).IsTextual := Option.isSome_of_eq_some htext
        have hwritten : writtenValue (c.get key) = c.get key := by
          unfold writtenValue
          split
          next htuple => simp [Value.IsTextual, Value.text?, htuple] at htextual
          next => rfl
        have hloaded : loaded key (c.get key) = .text (c.get key).str := by
          unfold loaded
          rw [if_neg hlist, if_neg hverbose]
          split
          next hnone => simp [Value.IsTextual, Value.text?, hnone] at htextual
          next => rfl
        rw [hwritten, hloaded, Value.same_text, htext]
        refine ⟨⟨fun htrue => absurd htrue hlist, fun _ => isTooLong_of_textual _ htextual⟩, ?_⟩
        exact beq_self_eq_true _

end Assay.Config
