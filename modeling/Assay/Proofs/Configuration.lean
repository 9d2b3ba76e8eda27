import Assay.Command.Run
import Assay.Proofs.ReportLog

/-! # Configurations that are overridden

Wherever a configuration is from, its lists hold texts, and what it is overridden by keeps them so.
Overriding never fails. Configurations that agree outside of a report and its code root still do when
both are overridden alike, and an analysis cannot tell them apart.
-/

namespace Assay

/-- Whether a value counts as a text: it is one, or a member of an enumeration that is one too. -/
def Value.IsTextual (v : Value) : Prop := v.text?.isSome = true

namespace Value

theorem isTextual_text (s : String) : (text s).IsTextual := by simp [IsTextual]

variable {vs : List Value} (h : ∀ v ∈ vs, v.IsTextual)

include h

/-- Texts can be looked up. -/
theorem forM_requireKey_textual : vs.forM requireKey = .ok () := by
  induction vs with
  | nil => rfl
  | cons v vs ih =>
      rw [List.forall_mem_cons] at h
      change (v.requireKey >>= fun _ => vs.forM requireKey) = .ok ()
      rw [requireKey, unhashable?_of_text v h.1, ih h.2]
      rfl

/-- Texts can be put in order. -/
theorem sorted_textual : sorted vs = .ok (sortByKey (fun v => v.text?.getD "") vs) := by
  refine sortIfOrdered_eq vs fun v hv w hw => ?_
  obtain ⟨s, hs⟩ := Option.isSome_iff_exists.mp (h v hv)
  obtain ⟨t, ht⟩ := Option.isSome_iff_exists.mp (h w hw)
  rw [less_of_texts hs ht, hs, ht]
  rfl

theorem joinTexts_textual : joinTexts vs = .ok (commaed (vs.filterMap text?)) := by
  have hnone : (vs.findIdx? fun v => v.text?.isNone) = Option.none := by
    refine List.findIdx?_eq_none_iff.mpr fun v hv => ?_
    rw [← Option.not_isSome, h v hv]
    rfl
  rw [joinTexts, hnone]

end Value

namespace Config

/-! ## Lists of texts -/

/-- A configuration in which all lists hold texts. -/
def IsTextual (c : Config) : Prop :=
  ∀ key : ConfigKey, key.isList = true →
    ∃ vs : List Value, c.get key = .tuple vs ∧ ∀ v ∈ vs, v.IsTextual

theorem isTextual_default : ({} : Config).IsTextual :=
  fun key hkey => ⟨[], by simp [ConfigKey.default, hkey], List.forall_mem_nil _⟩

theorem IsTextual.set {c : Config} (h : c.IsTextual) {key : ConfigKey} {v : Value}
    (hv : key.isList = true → ∃ vs : List Value, v = .tuple vs ∧ ∀ w ∈ vs, w.IsTextual) :
    (c.set key v).IsTextual := by
  intro k hk
  by_cases heq : k = key
  · subst heq
    rw [get_set_self]
    exact hv hk
  · rw [get_set_of_ne c v heq]
    exact h k hk

/-- A text is taken as a list of one, and a list as it is, if it holds texts. -/
theorem textsIn?_eq_some_iff {v : Value} {vs : List Value} :
    textsIn? v = some vs ↔ (v.IsTextual ∧ vs = [v] ∨ v = .list vs) ∧ ∀ w ∈ vs, w.IsTextual := by
  unfold textsIn?
  split
  next ws =>
    have hlist : ¬ (Value.list ws).IsTextual := by simp [Value.IsTextual, Value.text?]
    simp only [Option.ite_none_right_eq_some, List.all_eq_true, hlist, false_and, false_or,
      Value.list.injEq, Option.some.injEq]
    constructor
    · rintro ⟨htexts, rfl⟩
      exact ⟨rfl, htexts⟩
    · rintro ⟨rfl, htexts⟩
      exact ⟨htexts, rfl⟩
  next hlist =>
    simp only [Option.ite_none_right_eq_some, Option.some.injEq]
    constructor
    · rintro ⟨htext, rfl⟩
      exact ⟨.inl ⟨htext, rfl⟩, List.forall_mem_singleton.mpr htext⟩
    · rintro ⟨⟨htext, rfl⟩ | hv, -⟩
      · exact ⟨htext, rfl⟩
      · exact absurd hv (hlist vs)

theorem valueFor_texts {key : ConfigKey} {named v w : Value}
    (h : valueFor key named v = .ok (some w)) (hkey : key.isList = true) :
    ∃ vs : List Value, w = .tuple vs ∧ ∀ w ∈ vs, w.IsTextual := by
  unfold valueFor at h
  rw [if_pos hkey] at h
  split at h
  next vs hvs =>
    cases h
    exact ⟨vs, rfl, (textsIn?_eq_some_iff.mp hvs).2⟩
  next => cases h

theorem IsTextual.assign {c d : Config} (h : c.IsTextual) {entries : List (Value × Value)}
    (hassign : c.assign entries = .ok d) : d.IsTextual := by
  induction entries generalizing c with
  | nil =>
      cases hassign
      exact h
  | cons e rest ih =>
      obtain ⟨k, v⟩ := e
      rw [Config.assign] at hassign
      split at hassign
      next => exact ih h hassign
      next key _ =>
        obtain ⟨w, hw, hassign⟩ := Attempt.of_bind_eq_ok hassign
        cases w with
        | none => exact ih h hassign
        | some w => exact ih (h.set (valueFor_texts hw)) hassign

theorem isTextual_of_ofFile {π : Type} {tree : FileTree π} {path : Path} {c : Config}
    (h : ofFile tree path = .ok c) : c.IsTextual := by
  unfold ofFile at h
  split at h
  next =>
    split at h <;> cases h
  next =>
    split at h
    next => cases h
    next => cases h
    next =>
      split at h
      next entries _ =>
        simp only [ofEntries] at h
        split at h
        next =>
          obtain ⟨d, hd, h⟩ := Attempt.of_bind_eq_ok h
          cases h
          exact (isTextual_default.assign hd).set fun hkey => by cases hkey
        next =>
          obtain ⟨_, _, h⟩ := Attempt.of_bind_eq_ok h
          cases h
      next => cases h

theorem isTextual_of_discover {π : Type} {tree : FileTree π} {directory : Path} {c : Config}
    (h : discover tree directory = .ok c) : c.IsTextual := by
  obtain ⟨found, -, h⟩ := Attempt.of_bind_eq_ok h
  cases found with
  | some path => exact isTextual_of_ofFile h
  | none =>
      cases h
      exact isTextual_default

/-! ## Overriding -/

/-- The configuration with fields overridden one after the other. -/
def overridden (c : Config) (fields : List (ConfigKey × Value)) : Config :=
  fields.foldl (fun c f => if isVoid f.2 then c else c.set f.1 (override f.2)) c

theorem ofName?_name (key : ConfigKey) : ConfigKey.ofName? key.name = some key := by
  cases key with
  | treatAs severity => cases severity <;> rfl
  | _ => rfl

theorem name_ne_ownName (key : ConfigKey) : key.name ≠ ownName := by
  cases key with
  | treatAs severity => cases severity <;> decide
  | _ => decide

theorem overrideAll_eq (c : Config) (fields : List (ConfigKey × Value)) :
    c.overrideAll (fields.map fun f => (f.1.name, f.2)) = .ok (c.overridden fields) := by
  induction fields generalizing c with
  | nil => rfl
  | cons f rest ih =>
      rw [List.map_cons, overrideAll, ofName?_name, overridden, List.foldl_cons]
      split
      next => exact ih c
      next => exact ih (c.set f.1 (override f.2))

theorem merge_of_ne {overrides : List (String × Value)} (h : ∀ o ∈ overrides, o.1 ≠ ownName)
    (c : Config) : c.merge overrides = c.overrideAll overrides := by
  refine if_neg fun hany => ?_
  obtain ⟨o, ho, hname⟩ := List.any_eq_true.mp hany
  exact h o ho (of_decide_eq_true hname)

/-- Fields that are known can always be overridden. -/
theorem merge_eq (c : Config) (fields : List (ConfigKey × Value)) :
    c.merge (fields.map fun f => (f.1.name, f.2)) = .ok (c.overridden fields) := by
  rw [merge_of_ne (List.forall_mem_map.mpr fun f _ => name_ne_ownName f.1), overrideAll_eq]

theorem IsTextual.overridden {c : Config} (h : c.IsTextual) {fields : List (ConfigKey × Value)}
    (hfields : ∀ f ∈ fields, f.1.isList = true →
      f.2 = .none ∨ ∃ vs : List Value, f.2 = .list vs ∧ ∀ v ∈ vs, v.IsTextual) :
    (c.overridden fields).IsTextual := by
  induction fields generalizing c with
  | nil => exact h
  | cons f rest ih =>
      rw [List.forall_mem_cons] at hfields
      rw [Config.overridden, List.foldl_cons]
      refine ih ?_ hfields.2
      split
      next => exact h
      next hvoid =>
        refine h.set fun hkey => ?_
        rcases hfields.1 hkey with hnone | ⟨vs, hvs, htexts⟩
        · rw [hnone] at hvoid
          exact absurd rfl hvoid
        · exact ⟨vs, by rw [hvs, override], htexts⟩

/-! ## Reports -/

/-- Configurations that differ in the report, its code root and where they are from only. -/
def AgreeOnAnalysis (c d : Config) : Prop :=
  ∀ key, key ≠ .report → key ≠ .codeRoot → key ≠ .source → d.get key = c.get key

namespace AgreeOnAnalysis

variable {c d : Config}

theorem set (h : c.AgreeOnAnalysis d) {key : ConfigKey} {v w : Value}
    (hvalue : key = .report ∨ key = .codeRoot ∨ w = v) :
    (c.set key v).AgreeOnAnalysis (d.set key w) := by
  intro k hreport hroot hsource
  by_cases hk : k = key
  · subst hk
    rw [get_set_self, get_set_self]
    tauto
  · rw [get_set_of_ne c v hk, get_set_of_ne d w hk]
    exact h k hreport hroot hsource

theorem symm (h : c.AgreeOnAnalysis d) : d.AgreeOnAnalysis c :=
  fun key hreport hroot hsource => (h key hreport hroot hsource).symm

theorem set_left (h : c.AgreeOnAnalysis d) {key : ConfigKey} (v : Value)
    (hkey : key = .report ∨ key = .codeRoot) : (c.set key v).AgreeOnAnalysis d := by
  intro k hreport hroot hsource
  have hk : k ≠ key := by
    rintro rfl
    tauto
  rw [get_set_of_ne c v hk]
  exact h k hreport hroot hsource

/-- Overriding both alike leaves them in agreement, whatever the report is overridden by. -/
theorem overridden (h : c.AgreeOnAnalysis d) {fields others : List (ConfigKey × Value)}
    (hfields : List.Forall₂ (fun f g => g.1 = f.1 ∧
      (f.1 = .report ∨ f.1 = .codeRoot ∨ g.2 = f.2)) fields others) :
    (c.overridden fields).AgreeOnAnalysis (d.overridden others) := by
  induction hfields generalizing c d with
  | nil => exact h
  | @cons f g fields others hfield _ ih =>
      obtain ⟨key, v⟩ := f
      obtain ⟨other, w⟩ := g
      obtain ⟨hkey, hvalue⟩ := hfield
      simp only at hkey hvalue
      subst hkey
      rw [Config.overridden, Config.overridden, List.foldl_cons, List.foldl_cons]
      refine ih ?_
      by_cases hreport : other = .report ∨ other = .codeRoot
      · split <;> split
        · exact h
        · exact (h.symm.set_left _ hreport).symm
        · exact h.set_left _ hreport
        · exact h.set (by tauto)
      · obtain rfl : w = v := by tauto
        split
        · exact h
        · exact h.set (.inr (.inr rfl))

/-- An analysis looks at nothing else. -/
theorem analyze_eq (h : c.AgreeOnAnalysis d) (tree : FileTree Plugin.Program)
    (projects : List String) (sources : Option (List String)) (directory : Path) :
    analyze tree projects sources d directory = analyze tree projects sources c directory := by
  have hget : ∀ key, key ≠ .report ∧ key ≠ .codeRoot ∧ key ≠ .source → d.get key = c.get key :=
    fun key hkey => h key hkey.1 hkey.2.1 hkey.2.2
  simp only [analyze, severityMappings, loadAnalyzers, analyzerPaths, texts,
    hget (.treatAs _) (by simp), hget .analyzersPath (by simp), hget .excludeAnalyzers (by simp),
    hget .ignoreFiles (by simp)]

end AgreeOnAnalysis

end Config

namespace Command

open Config

/-! ## Configurations of a run -/

/-- The configuration of a run before the arguments override it. -/
def fileConfigOf (tree : FileTree Plugin.Program) (a : Arguments) : Except Failure Config :=
  match a.config with
  | some path => Config.ofFile tree (Path.ofString path)
  | none => Config.discover tree tree.workingDirectory

/-- What an option with texts overrides a list by. -/
def listOf : Option (List String) → Value
  | some texts => .list (texts.map .text)
  | none => .none

/-- What an option with a text overrides a field by. -/
def singleOf : Option String → Value
  | some s => .text s
  | none => .none

/-- The fields that arguments override, but for the report and its code root. -/
def analysisFields (a : Arguments) : List (ConfigKey × Value) :=
  [(.analyzersPath, listOf a.analyzersPath), (.excludeAnalyzers, listOf a.excludeAnalyzer),
    (.ignoreFiles, listOf a.ignoreFiles)] ++
    Severity.all.map fun s => (.treatAs s, listOf (a.treatAs s))

/-- All fields that arguments override. -/
def fieldsOf (a : Arguments) : List (ConfigKey × Value) :=
  analysisFields a ++ [(.report, singleOf a.report), (.codeRoot, singleOf a.codeRoot),
    (.verbose, if a.verbose then .bool true else .none)]

theorem configOf_eq (tree : FileTree Plugin.Program) (a : Arguments) :
    configOf tree a = (fileConfigOf tree a).map fun c => c.overridden (fieldsOf a) := by
  have hfields : overrides a = (fieldsOf a).map fun f => (f.1.name, f.2) := rfl
  unfold configOf fileConfigOf
  cases a.config <;> simp only [hfields, merge_eq] <;> rfl

theorem isTextual_of_configOf {tree : FileTree Plugin.Program} {a : Arguments} {c : Config}
    (h : configOf tree a = .ok c) : c.IsTextual := by
  rw [configOf_eq] at h
  obtain ⟨file, hfile, rfl⟩ := Attempt.of_map_eq_ok h
  have htextual : file.IsTextual := by
    unfold fileConfigOf at hfile
    split at hfile
    · exact isTextual_of_ofFile hfile
    · exact isTextual_of_discover hfile
  have hlist : ∀ values, listOf values = .none ∨
      ∃ vs : List Value, listOf values = .list vs ∧ ∀ v ∈ vs, v.IsTextual := by
    intro values
    cases values with
    | none => exact .inl rfl
    | some texts =>
        exact .inr ⟨_, rfl, List.forall_mem_map.mpr fun s _ => Value.isTextual_text s⟩
  refine htextual.overridden fun f hf hkey => ?_
  simp only [fieldsOf, analysisFields, Severity.all, List.map_cons, List.map_nil, List.cons_append,
    List.nil_append, List.mem_cons, List.not_mem_nil, or_false] at hf
  rcases hf with rfl | rfl | rfl | rfl | rfl | rfl | rfl | rfl | rfl | rfl
  case inr.inr.inr.inr.inr.inr.inr.inl | inr.inr.inr.inr.inr.inr.inr.inr.inl |
    inr.inr.inr.inr.inr.inr.inr.inr.inr => cases hkey
  all_goals exact hlist _

/-- Arguments that differ in the report, its code root and the configuration file only. -/
structure Arguments.AgreeOnAnalysis (a b : Arguments) : Prop where
  projects : b.projects = a.projects
  sources : b.sources = a.sources
  fields : analysisFields b = analysisFields a
  verbose : b.verbose = a.verbose

/-- If the files agree, so do the configurations, whatever report is asked for. -/
theorem configOf_agree {tree other : FileTree Plugin.Program} {a b : Arguments} {c d : Config}
    (hfiles : ∀ c d, fileConfigOf tree a = .ok c → fileConfigOf other b = .ok d →
      c.AgreeOnAnalysis d)
    (harguments : a.AgreeOnAnalysis b) (hc : configOf tree a = .ok c)
    (hd : configOf other b = .ok d) : c.AgreeOnAnalysis d := by
  rw [configOf_eq] at hc hd
  obtain ⟨file, hfile, rfl⟩ := Attempt.of_map_eq_ok hc
  obtain ⟨others, hothers, rfl⟩ := Attempt.of_map_eq_ok hd
  refine (hfiles file others hfile hothers).overridden ?_
  rw [fieldsOf, fieldsOf, harguments.fields, harguments.verbose]
  refine List.rel_append (List.forall₂_same.mpr fun f _ => ⟨rfl, .inr (.inr rfl)⟩) ?_
  exact .cons ⟨rfl, .inl rfl⟩ (.cons ⟨rfl, .inr (.inl rfl)⟩ (.cons ⟨rfl, .inr (.inr rfl)⟩ .nil))

end Command

end Assay
