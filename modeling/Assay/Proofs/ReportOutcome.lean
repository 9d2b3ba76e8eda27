import Assay.Command.Run
import Assay.Proofs.LinkEnds
import Assay.Proofs.ReportFile
import Mathlib.Data.List.Perm.Subperm

/-! # Reports and the end of a run

A report of messages whose numbers can all be written is written, or it does not fit the schema, or
the system refuses its file. Both faults are only mentioned, so that a report changes neither what is
printed nor how a run ends.
-/

namespace Assay

/-! ## Numbers that can be written -/

namespace Value

/-- A value that can be written: all its keys have texts, and no number in its JSON form is too
long. -/
structure IsShort (v : Value) : Prop where
  keys : v.hasTooLongKey = false
  json : v.toJson.isTooLong = false

theorem IsShort.canonicalText {v : Value} (h : v.IsShort) (i : Json.Indent) :
    v.canonicalText i = .ok (Json.canonicalText i v.toJson) := by
  rw [Value.canonicalText, h.keys, h.json]
  rfl

theorem isShort_int_of_lt {n : Nat} (h : n < Nat.pow 10 Decimal.digitLimit) : (int n).IsShort := by
  refine ⟨rfl, ?_⟩
  rw [toJson, Json.isTooLong, Assay.isTooLong, Int.natAbs_natCast]
  exact decide_eq_false (Nat.not_le.mpr h)

theorem isShort_text (s : String) : (text s).IsShort := ⟨rfl, rfl⟩

theorem IsText.isShort {v : Value} (h : v.IsText) : v.IsShort := by
  obtain ⟨s, rfl⟩ := h
  exact isShort_text s

theorem isShort_list {α : Type} {f : α → Value} {xs : List α} (h : ∀ x ∈ xs, (f x).IsShort) :
    (list (xs.map f)).IsShort := by
  have hitems : haveTooLongKeys (xs.map f) = false ∧
      Json.areTooLong (toJsonItems (xs.map f)) = false := by
    induction xs with
    | nil => exact ⟨rfl, rfl⟩
    | cons x xs ih =>
        rw [List.forall_mem_cons] at h
        obtain ⟨hkeys, hjson⟩ := ih h.2
        simp [haveTooLongKeys, toJsonItems, Json.areTooLong, h.1.keys, h.1.json, hkeys, hjson]
  refine ⟨?_, ?_⟩
  · rw [hasTooLongKey]
    exact hitems.1
  · rw [toJson, Json.isTooLong]
    exact hitems.2

end Value

theorem Json.fieldsTooLong_setField {name : String} {j : Json} {fields : List (String × Json)}
    (hj : j.isTooLong = false) (hfields : Json.fieldsTooLong fields = false) :
    Json.fieldsTooLong (Json.setField name j fields) = false := by
  induction fields with
  | nil => simp [setField, fieldsTooLong, hj]
  | cons f rest ih =>
      obtain ⟨other, k⟩ := f
      rw [fieldsTooLong, Bool.or_eq_false_iff] at hfields
      unfold setField
      split <;> simp [fieldsTooLong, hj, hfields, ih hfields.2]

open Report

/-- A message with a textual code from an analyzer with a textual name that has no number which is
too long for the console or a report. -/
structure AnalyzerMessage.IsWritable (m : AnalyzerMessage) : Prop extends m.IsNamed where
  printable : isPrintable m = true
  region : (Sarif.Region.ofRange m.message.range).toValue.IsShort
  text : m.message.text.IsShort
  shortDescription : m.shortDescription.IsShort
  helpUri : m.helpUri.IsShort
  fixes : ∀ f ∈ m.message.fixes,
    (Sarif.Region.ofRange f.range).toValue.IsShort ∧ f.after.IsShort

theorem AnalyzerMessage.IsWritable.withSeverity {m : AnalyzerMessage} (h : m.IsWritable)
    (s : Severity) : (m.withSeverity s).IsWritable :=
  { code := h.code, name := h.name, printable := h.printable, region := h.region, text := h.text
    shortDescription := h.shortDescription, helpUri := h.helpUri, fixes := h.fixes }

namespace Report.Sarif

variable {π : Type} {tree : FileTree π} {root : Path}

theorem isShort_mappingOf {fields : List (String × Value)} (h : ∀ f ∈ fields, f.2.IsShort) :
    (mappingOf fields).IsShort := by
  have hentries : ∀ done, Json.fieldsTooLong done = false →
      Value.entriesTooLongKeyed (fields.map fun f => (Value.text f.1, f.2)) = false ∧
        Json.fieldsTooLong
          (Value.toJsonFields done (fields.map fun f => (Value.text f.1, f.2))) = false := by
    induction fields with
    | nil => exact fun done hdone => ⟨rfl, hdone⟩
    | cons f rest ih =>
        rw [List.forall_mem_cons] at h
        intro done hdone
        obtain ⟨hkeys, hjson⟩ := ih h.2 _ (Json.fieldsTooLong_setField h.1.json hdone)
        rw [List.map_cons, Value.entriesTooLongKeyed, h.1.keys, hkeys, Value.toJsonFields]
        exact ⟨rfl, hjson⟩
  obtain ⟨hkeys, hjson⟩ := hentries [] rfl
  refine ⟨?_, ?_⟩
  · rw [mappingOf, Value.hasTooLongKey]
    exact hkeys
  · rw [mappingOf, Value.toJson, Json.isTooLong]
    exact hjson

theorem isShort_artifactValue (uri : String) : (artifactValue uri).IsShort :=
  isShort_mappingOf (by simp [Value.isShort_text])

theorem isShort_singleton {v : Value} (h : v.IsShort) : (Value.list [v]).IsShort := by
  have hmap : [v] = [v].map id := rfl
  rw [hmap]
  exact Value.isShort_list (List.forall_mem_singleton.mpr h)

theorem Location.isShort_toValue {l : Location} (h : l.region.toValue.IsShort) :
    l.toValue.IsShort := by
  refine isShort_mappingOf (List.forall_mem_singleton.mpr (isShort_mappingOf ?_))
  simp [h, isShort_artifactValue]

theorem Replacement.isShort_toValue {c : Replacement} (hregion : c.location.region.toValue.IsShort)
    (htext : c.text.IsShort) : c.toValue.IsShort := by
  have hinserted : (mappingOf [("text", c.text)]).IsShort :=
    isShort_mappingOf (List.forall_mem_singleton.mpr htext)
  refine isShort_mappingOf (List.forall_mem_singleton.mpr (isShort_singleton (isShort_mappingOf ?_)))
  simp only [List.forall_mem_cons, List.not_mem_nil, false_implies, implies_true, and_true]
  exact ⟨isShort_artifactValue _, isShort_singleton (isShort_mappingOf (by simp [hregion, hinserted]))⟩

theorem Rule.isShort_toValue {m : AnalyzerMessage} (h : m.IsWritable) :
    (Rule.ofMessage m).toValue.IsShort := by
  have hdescription : (mappingOf [("text", m.shortDescription)]).IsShort :=
    isShort_mappingOf (List.forall_mem_singleton.mpr h.shortDescription)
  refine isShort_mappingOf ?_
  by_cases hs : m.shortDescription.isTrue = true <;> by_cases hh : m.helpUri.isTrue = true <;>
    simp [Rule.ofMessage, hs, hh, h.code.isShort, h.name.isShort, hdescription, h.helpUri]

theorem Result.isShort_toValue {m : AnalyzerMessage} {r : Result} (h : r.Describes tree root m)
    (hm : m.IsWritable) (hindex : r.ruleIndex < Nat.pow 10 Decimal.digitLimit) :
    r.toValue.IsShort := by
  have hplace := Location.isShort_toValue ((locate_eq_ok_iff.mp h.location).2 ▸ hm.region)
  have hfixes : (Value.list (r.fixes.map Replacement.toValue)).IsShort := by
    refine Value.isShort_list fun c hc => ?_
    obtain ⟨f, hf, hlocation, hafter⟩ := exists_of_mem_right h.fixes hc
    obtain ⟨hregion, htext⟩ := hm.fixes f hf
    exact Replacement.isShort_toValue ((locate_eq_ok_iff.mp hlocation).2 ▸ hregion)
      (hafter ▸ htext)
  have hmessage : (mappingOf [("text", m.message.text)]).IsShort :=
    isShort_mappingOf (List.forall_mem_singleton.mpr hm.text)
  have hnumber := Value.isShort_int_of_lt hindex
  refine isShort_mappingOf ?_
  rw [h.ruleId, h.text]
  by_cases hnone : r.fixes.isEmpty = true <;>
    simp [hnone, hm.code.isShort, hmessage, hnumber, Value.isShort_text, isShort_singleton hplace,
      hfixes]

/-- There are not more rules than messages. -/
theorem AreRulesOf.length_le {messages : List AnalyzerMessage} {rules : List Rule}
    (h : AreRulesOf messages rules) : rules.length ≤ messages.length := by
  have hcodes : rules.map Rule.id ⊆ messages.map AnalyzerMessage.code := by
    intro code hcode
    obtain ⟨m, hm, rfl⟩ := h.mem_ids_iff.mp hcode
    exact List.mem_map_of_mem hm
  simpa using (List.Nodup.subperm h.nodup hcodes).length_le

/-- A report of messages whose numbers can be written has a text. -/
theorem Log.isShort_toValue {messages : List AnalyzerMessage} {log : Log}
    (h : log.Reports tree messages) (hwritable : ∀ m ∈ messages, m.IsWritable)
    (hfew : messages.length < Nat.pow 10 Decimal.digitLimit) : log.toValue.IsShort := by
  have hsorted : ∀ m ∈ inOrder messages, m.IsWritable :=
    fun m hm => hwritable m (mem_inOrder.mp hm)
  have hcount : log.rules.length ≤ messages.length := by
    simpa [inOrder] using h.rules.length_le
  have hrules : (Value.list (log.rules.map Rule.toValue)).IsShort := by
    refine Value.isShort_list fun rule hrule => ?_
    obtain ⟨firsts, -, hfirsts, hrules⟩ := h.rules.firsts
    obtain ⟨f, hf, rfl⟩ := List.mem_map.mp (hrules ▸ hrule)
    exact Rule.isShort_toValue (hsorted f.2 (List.mem_of_getElem? (hfirsts f hf).1))
  have hresults : (Value.list (log.results.map Result.toValue)).IsShort := by
    refine Value.isShort_list fun r hr => ?_
    obtain ⟨m, hm, hdescribes, rule, hrule, -⟩ := exists_of_mem_right h.results hr
    have hindex := (List.getElem?_eq_some_iff.mp hrule).1
    exact Result.isShort_toValue hdescribes (hsorted m hm) (by omega)
  -- from the inside: the tool, the place names, and the run that they belong to
  refine isShort_mappingOf ?_
  simp only [List.forall_mem_cons, List.not_mem_nil, false_implies, implies_true, and_true]
  refine ⟨Value.isShort_text _, Value.isShort_text _, isShort_singleton (isShort_mappingOf ?_)⟩
  simp only [List.forall_mem_cons, List.not_mem_nil, false_implies, implies_true, and_true]
  refine ⟨?_, ?_, hresults⟩
  · refine isShort_mappingOf (List.forall_mem_singleton.mpr (isShort_mappingOf ?_))
    simp [Value.isShort_text, hrules]
  · refine isShort_mappingOf (List.forall_mem_singleton.mpr (isShort_mappingOf ?_))
    simp [Value.isShort_text]

end Report.Sarif

/-! ## Files that the system refuses -/

namespace FileTree

variable {π : Type} {t : FileTree π}

theorem isSystemFailure_of_makeDirectories {made : Bool} {place rest : List String} {f : Failure}
    (h : (t.makeDirectories made place rest).1 = .error f) : f.isSystemFailure := by
  induction rest generalizing t made place with
  | nil => cases h
  | cons name rest ih =>
      simp only [makeDirectories] at h
      split at h
      next =>
        cases h
        simp [faultOf, deniedFault, Failure.system, Failure.isSystemFailure]
      next =>
        split at h
        next =>
          cases h
          simp [faultOf, Failure.system, Failure.isSystemFailure]
        next =>
          split at h
          next =>
            split at h
            next =>
              cases h
              simp [deniedFault, Failure.system, Failure.isSystemFailure]
            next => exact ih h
          next => exact ih h
          next =>
            split at h <;> cases h <;> simp [Failure.system, Failure.isSystemFailure]

theorem isSystemFailure_of_makeDirectory {p : Path} {f : Failure}
    (h : (t.makeDirectory p).1 = .error f) : f.isSystemFailure := by
  unfold makeDirectory at h
  split at h
  next =>
    cases h
    simp [faultOf, Failure.system, Failure.isSystemFailure]
  next => exact isSystemFailure_of_makeDirectories h

theorem isSystemFailure_of_writeText {p : Path} {s : String} {f : Failure} (hp : hasNul p = false)
    (h : t.writeText p s = .error f) : f.isSystemFailure := by
  unfold writeText at h
  split at h
  next =>
    split at h <;> cases h
    simp [deniedFault, Failure.system, Failure.isSystemFailure]
  next =>
    cases h
    simp [isDirectoryFault, Failure.system, Failure.isSystemFailure]
  next =>
    split at h <;> cases h
    simp [deniedFault, Failure.system, Failure.isSystemFailure]
  next fault _ hlocate =>
    cases h
    exact isSystemFailure_faultOf hp hlocate _

end FileTree

namespace Report.Sarif

variable {π : Type} {tree : FileTree π}

theorem isSystemFailure_of_openFile {report : String} {f : Failure} (hproper : tree.Proper)
    (hreport : FileTree.hasNul (Path.ofString report) = false)
    (h : (openFile tree report).1 = .error f) : f.isSystemFailure := by
  obtain ⟨path, hpath, hnul, -⟩ := hproper.resolve_ok hreport
  simp only [openFile, hpath] at h
  split at h
  next hmake =>
    cases h
    exact FileTree.isSystemFailure_of_makeDirectory (congrArg Prod.fst hmake)
  next =>
    split at h
    next hwrite =>
      cases h
      exact FileTree.isSystemFailure_of_writeText hnul hwrite
    next => cases h

/-- What is opened for a report is at the end of the path that is asked for. -/
theorem resolve_of_openFile {report : String} {path : Path} {opened : FileTree π}
    (h : openFile tree report = (.ok path, opened)) :
    tree.resolve (Path.ofString report) = .ok path := by
  unfold openFile at h
  split at h
  next => cases h
  next hpath =>
    split at h
    next => cases h
    next =>
      split at h
      next => cases h
      next =>
        cases h
        exact hpath

/-- A code root that is a path can be resolved. -/
theorem codeRoot_ok (hproper : tree.Proper) {root : Option String}
    (hroot : ∀ s ∈ root, FileTree.hasNul (Path.ofString s) = false) :
    ∃ place, codeRoot tree root = .ok place := by
  cases root with
  | none => exact ⟨_, rfl⟩
  | some s =>
      obtain ⟨q, hq, -⟩ := hproper.resolve_ok (hroot s rfl)
      by_cases hempty : s = ""
      · exact ⟨_, if_pos hempty⟩
      · exact ⟨q, (if_neg hempty).trans hq⟩

/-- Every file can be named. -/
theorem artifactUri_ok (hproper : tree.Proper) (root : Path) (file : String) :
    ∃ uri, artifactUri tree root file = .ok uri := by
  cases habsolute : (Path.ofString file).isAbsolute with
  | false => simp [artifactUri, habsolute]
  | true =>
      cases hnul : FileTree.hasNul (Path.ofString file) with
      | true =>
          simp [artifactUri, habsolute, FileTree.resolve_of_hasNul hnul, Failure.value, Failure.of,
            Failure.ofArguments]
      | false =>
          obtain ⟨q, hq, -⟩ := hproper.resolve_ok hnul
          simp [artifactUri, habsolute, hq]

/-- A report that can be said is refused by its schema or by the system, if it is not written. -/
theorem isMentioned_of_writeIn (hproper : tree.Proper) {report : String} {root : Option String}
    {messages : List AnalyzerMessage}
    (hreport : FileTree.hasNul (Path.ofString report) = false)
    (hroot : ∀ s ∈ root, FileTree.hasNul (Path.ofString s) = false)
    (hwritable : ∀ m ∈ messages, m.IsWritable)
    (hfew : messages.length < Nat.pow 10 Decimal.digitLimit) {fault : WriteFault}
    (h : (writeIn tree report root messages).1 = .error fault) :
    Command.isMentioned fault = true := by
  have hnamed : ∀ m ∈ messages, m.IsNamed := fun m hm => (hwritable m hm).toIsNamed
  obtain ⟨place, hplace⟩ := codeRoot_ok hproper hroot
  obtain ⟨log, hlog⟩ := (Log.ofMessages_isOk_iff hnamed).mpr
    ⟨place, hplace, fun _ _ file _ => artifactUri_ok hproper place file⟩
  have hshort := Log.isShort_toValue (Log.reports_of_ok hnamed hlog).2 hwritable hfew
  have hchecked := checkedValue_eq hlog
  cases hfault : schema.check log.toValue with
  | some invalid =>
      rw [hfault] at hchecked
      rw [writeIn, hchecked] at h
      cases h
      rfl
  | none =>
      rw [hfault] at hchecked
      simp only [writeIn, hchecked] at h
      split at h
      next hopen =>
        cases h
        exact isSystemFailure_of_openFile hproper hreport (congrArg Prod.fst hopen)
      next path opened hopen =>
        have hpath : FileTree.hasNul path = false :=
          (hproper.resolve_resolved (resolve_of_openFile hopen)).2
        rw [hshort.canonicalText] at h
        split at h
        next hwrite =>
          cases h
          exact FileTree.isSystemFailure_of_writeText hpath hwrite
        next => cases h

end Report.Sarif

namespace Command

/-- A report changes neither what is printed nor how the command ends. -/
theorem writeReport_keeps {config : Config} {messages : List AnalyzerMessage} {o : Outcome}
    (hproper : o.tree.Proper)
    (hpaths : ∀ key : ConfigKey, key = .report ∨ key = .codeRoot → ∀ s ∈ textOf config key,
      FileTree.hasNul (Path.ofString s) = false)
    (hwritable : ∀ m ∈ messages, m.IsWritable)
    (hfew : messages.length < Nat.pow 10 Decimal.digitLimit) :
    (writeReport config messages o).output = o.output ∧
      (writeReport config messages o).ending = o.ending := by
  unfold writeReport
  split
  next => exact ⟨rfl, rfl⟩
  next report hreport =>
    have hmentioned : ∀ fault,
        (Report.Sarif.writeIn o.tree report (textOf config .codeRoot) messages).1 = .error fault →
          isMentioned fault = true :=
      fun _ => Report.Sarif.isMentioned_of_writeIn hproper (hpaths .report (.inl rfl) report hreport)
        (hpaths .codeRoot (.inr rfl)) hwritable hfew
    generalize Report.Sarif.writeIn o.tree report (textOf config .codeRoot) messages = w
      at hmentioned
    obtain ⟨written, after⟩ := w
    cases written with
    | ok path => exact ⟨rfl, rfl⟩
    | error fault => simp [hmentioned fault rfl]

end Command

end Assay
