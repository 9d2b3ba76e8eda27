import Assay.Proofs.CanonicalJson
import Assay.Proofs.ReportSchema
import Assay.Proofs.WrittenFile

/-! # Files of reports

A report that does not fit the schema leaves the tree as it is. One that is written is read back from
its file: the file holds the canonical text of the report, in which no line end can be mistaken, and
the value that is read from the text equals the report.
-/

namespace Assay

namespace Json

/-! ## Line ends in JSON texts -/

theorem return_not_mem_hexPadded : ∀ n < 0x20, '\r' ∉ (Text.hexPadded 4 n).toList := by
  decide

theorem return_not_mem_escapeChar (c : Char) : '\r' ∉ (escapeChar c).toList := by
  unfold escapeChar
  repeat' split
  case isFalse.isFalse.isFalse.isFalse.isFalse.isFalse.isFalse.isTrue h =>
    simpa using return_not_mem_hexPadded c.toNat h
  case isFalse.isFalse.isFalse.isFalse.isFalse.isFalse.isFalse.isFalse hreturn _ _ _ _ =>
    simpa using Ne.symm hreturn
  all_goals simp

theorem return_not_mem_quote (s : String) : '\r' ∉ (quote s).toList := by
  rw [toList_quote]
  simp [return_not_mem_escapeChar]

theorem return_not_mem_writeInt (n : Int) : '\r' ∉ (writeInt n).toList := by
  have hdigits : '\r' ∉ Nat.toDigits 10 n.natAbs := fun h => by
    have := Nat.isDigit_of_mem_toDigits (by decide) (by decide) h
    exact absurd this (by decide)
  unfold writeInt
  split <;> simp [hdigits]

theorem not_mem_intercalate {α : Type} {a : α} {separator : List α} {items : List (List α)}
    (hseparator : a ∉ separator) (hitems : ∀ item ∈ items, a ∉ item) :
    a ∉ separator.intercalate items := by
  induction items with
  | nil => simp
  | cons item items ih =>
      rw [List.forall_mem_cons] at hitems
      cases items with
      | nil => simpa using hitems.1
      | cons next items =>
          rw [List.intercalate_cons_cons]
          simp [hitems.1, hseparator, ih hitems.2]

theorem return_not_mem_enclose (i : Indent) (depth : Nat) {opening closing : String}
    {items : List String} (hopening : '\r' ∉ opening.toList) (hclosing : '\r' ∉ closing.toList)
    (hitems : ∀ item ∈ items, '\r' ∉ item.toList) :
    '\r' ∉ (i.enclose depth opening closing items).toList := by
  have hbreak : ∀ depth, '\r' ∉ (i.breakLine depth).toList := by
    intro depth
    unfold Indent.breakLine
    split <;> simp
  have hseparator : '\r' ∉ (i.separator (depth + 1)).toList := by
    unfold Indent.separator
    split <;> simp [hbreak]
  have hjoined := not_mem_intercalate hseparator (List.forall_mem_map.mpr hitems)
  unfold Indent.enclose
  split <;> simp [hopening, hclosing, hbreak, hjoined]

mutual

/-- No text of a value has a carriage return. -/
theorem return_not_mem_render (i : Indent) (depth : Nat) : (j : Json) → j.isExact = true →
    '\r' ∉ (render i depth j).toList
  | .null, _ => by simp [render]
  | .bool b, _ => by cases b <;> simp [render]
  | .int n, _ => by simpa [render] using return_not_mem_writeInt n
  | .float _, h => by cases h
  | .text s, _ => by simpa [render] using return_not_mem_quote s
  | .array items, h => by
      rw [render]
      exact return_not_mem_enclose i depth (by simp) (by simp)
        (return_not_mem_renderItems i (depth + 1) items h)
  | .object fields, h => by
      rw [render]
      exact return_not_mem_enclose i depth (by simp) (by simp)
        (return_not_mem_renderFields i (depth + 1) fields h)

theorem return_not_mem_renderItems (i : Indent) (depth : Nat) : (items : List Json) →
    areExact items = true → ∀ item ∈ renderItems i depth items, '\r' ∉ item.toList
  | [], _ => by simp [renderItems]
  | j :: rest, h => by
      rw [areExact, Bool.and_eq_true] at h
      rw [renderItems, List.forall_mem_cons]
      exact ⟨return_not_mem_render i depth j h.1, return_not_mem_renderItems i depth rest h.2⟩

theorem return_not_mem_renderFields (i : Indent) (depth : Nat) : (fields : List (String × Json)) →
    fieldsExact fields = true → ∀ item ∈ renderFields i depth fields, '\r' ∉ item.toList
  | [], _ => by simp [renderFields]
  | (name, j) :: rest, h => by
      rw [fieldsExact, Bool.and_eq_true] at h
      rw [renderFields, List.forall_mem_cons]
      refine ⟨?_, return_not_mem_renderFields i depth rest h.2⟩
      simp [return_not_mem_quote, return_not_mem_render i depth j h.1]

end

end Json

namespace Value

open Json

/-! ## Values that are read back as they are -/

mutual

/-- Whether a value consists of texts, whole numbers, lists, and mappings with distinct texts as
keys. -/
def IsPlain : Value → Prop
  | text _ | int _ => True
  | list items => ArePlain items
  | mapping entries => EntriesPlain entries
  | _ => False

/-- Whether values are plain. -/
def ArePlain : List Value → Prop
  | [] => True
  | v :: rest => IsPlain v ∧ ArePlain rest

/-- Whether entries have plain values under distinct texts. -/
def EntriesPlain : List (Value × Value) → Prop
  | [] => True
  | (k, v) :: rest =>
      (∃ name, k = text name ∧ text name ∉ rest.map Prod.fst) ∧ IsPlain v ∧ EntriesPlain rest

end

theorem arePlain_iff (items : List Value) : ArePlain items ↔ ∀ v ∈ items, v.IsPlain := by
  induction items with
  | nil => simp [ArePlain]
  | cons v rest ih => rw [ArePlain, ih, List.forall_mem_cons]

theorem setField_new {name : String} {j : Json} {fields : List (String × Json)}
    (h : name ∉ fields.map Prod.fst) : setField name j fields = fields ++ [(name, j)] := by
  induction fields with
  | nil => rfl
  | cons f rest ih =>
      rw [List.map_cons, List.mem_cons, not_or] at h
      simp [setField, Ne.symm h.1, ih h.2]

mutual

/-- A plain value is given back by its JSON form, which has no floating-point numbers. -/
theorem ofJson_toJson : (v : Value) → v.IsPlain → ofJson v.toJson = v ∧ v.toJson.isExact = true
  | text _, _ | int _, _ => ⟨rfl, rfl⟩
  | list items, h => by
      obtain ⟨hback, hexact⟩ := ofJson_toJsonItems items h
      exact ⟨by rw [toJson, ofJson, hback], hexact⟩
  | mapping entries, h => by
      obtain ⟨fields, hfields, hback, hexact⟩ := ofJson_toJsonFields entries [] h (by simp)
      rw [toJson, hfields, List.nil_append]
      exact ⟨by rw [ofJson, hback], hexact⟩

theorem ofJson_toJsonItems : (items : List Value) → ArePlain items →
    ofJsonItems (toJsonItems items) = items ∧ areExact (toJsonItems items) = true
  | [], _ => ⟨rfl, rfl⟩
  | v :: rest, h => by
      obtain ⟨hv, hvexact⟩ := ofJson_toJson v h.1
      obtain ⟨hrest, hexact⟩ := ofJson_toJsonItems rest h.2
      exact ⟨by rw [toJsonItems, ofJsonItems, hv, hrest],
        by rw [toJsonItems, areExact, hvexact, hexact]; rfl⟩

theorem ofJson_toJsonFields : (entries : List (Value × Value)) → (done : List (String × Json)) →
    EntriesPlain entries → (∀ f ∈ done, text f.1 ∉ entries.map Prod.fst) →
    ∃ fields, toJsonFields done entries = done ++ fields ∧ ofJsonFields fields = entries ∧
      fieldsExact fields = true
  | [], done, _, _ => ⟨[], by rw [toJsonFields, List.append_nil], rfl, rfl⟩
  | (k, v) :: rest, done, h, hdone => by
      obtain ⟨⟨name, rfl, hname⟩, hplain, hrest⟩ := h
      obtain ⟨hv, hvexact⟩ := ofJson_toJson v hplain
      have hnew : name ∉ done.map Prod.fst := by
        intro hmem
        obtain ⟨f, hf, rfl⟩ := List.mem_map.mp hmem
        exact hdone f hf (by simp)
      obtain ⟨fields, hfields, hback, hexact⟩ := ofJson_toJsonFields rest
        (done ++ [(name, v.toJson)]) hrest (by
          intro f hf
          rcases List.mem_append.mp hf with hf | hf
          · exact fun hmem => hdone f hf (List.mem_cons_of_mem _ hmem)
          · rw [List.mem_singleton.mp hf]
            exact hname)
      refine ⟨(name, v.toJson) :: fields, ?_, ?_, ?_⟩
      · rw [toJsonFields, str, setField_new hnew, hfields, List.append_assoc, List.singleton_append]
      · rw [ofJsonFields, hv, hback]
      · rw [fieldsExact, hvexact, hexact]
        rfl

end

theorem length_ofJsonFields (fields : List (String × Json)) :
    (ofJsonFields fields).length = fields.length := by
  induction fields with
  | nil => rfl
  | cons f rest ih => rw [ofJsonFields, List.length_cons, ih, List.length_cons]

theorem mem_ofJsonFields {fields : List (String × Json)} {name : String} {j : Json}
    (h : (name, j) ∈ fields) : (text name, ofJson j) ∈ ofJsonFields fields := by
  induction fields with
  | nil => cases h
  | cons f rest ih =>
      rcases List.mem_cons.mp h with rfl | h
      · exact List.mem_cons_self
      · exact List.mem_cons_of_mem _ (ih h)

mutual

/-- Alike JSON values stand for equal values. -/
theorem same_ofJson : (j k : Json) → k.isExact = true → Alike j k →
    (ofJson j).same (ofJson k) = true
  | .null, .null, _, _ => by simp [ofJson, same]
  | .bool _, .bool _, _, rfl => by simp [ofJson, same, sameNumbers, sameNumber, number?]
  | .int a, .int _, _, rfl => by simp [ofJson, same_int]
  | .float _, .float _, hexact, _ => by cases hexact
  | .text s, .text _, _, rfl => by simp [ofJson, same_text]
  | .array js, .array ks, hexact, h => by
      rw [ofJson, ofJson, same]
      exact sameItems_ofJson js ks hexact h
  | .object fs, .object gs, hexact, ⟨hs, hperm, h⟩ => by
      have hexact : fieldsExact hs = true := (fieldsExact_iff hs).mpr fun f hf =>
        (fieldsExact_iff gs).mp hexact f (hperm.mem_iff.mp hf)
      obtain ⟨hlength, hamong⟩ := entriesAmong_ofJson fs hs hexact h (ofJsonFields gs)
        fun name k hk => mem_ofJsonFields (hperm.mem_iff.mp hk)
      rw [ofJson, ofJson, same, length_ofJsonFields, length_ofJsonFields, hlength,
        hperm.length_eq, hamong]
      simp

theorem sameItems_ofJson : (js ks : List Json) → areExact ks = true → AlikeItems js ks →
    sameItems (ofJsonItems js) (ofJsonItems ks) = true
  | [], [], _, _ => by simp [ofJsonItems, sameItems]
  | j :: js, k :: ks, hexact, h => by
      rw [areExact, Bool.and_eq_true] at hexact
      rw [ofJsonItems, ofJsonItems, sameItems, same_ofJson j k hexact.1 h.1,
        sameItems_ofJson js ks hexact.2 h.2]
      rfl

theorem entriesAmong_ofJson : (fs hs : List (String × Json)) → fieldsExact hs = true →
    AlikeFields fs hs → (entries : List (Value × Value)) →
    (∀ name k, (name, k) ∈ hs → (text name, ofJson k) ∈ entries) →
    fs.length = hs.length ∧ entriesAmong (ofJsonFields fs) entries = true
  | [], [], _, _, _, _ => ⟨rfl, by simp [ofJsonFields, entriesAmong]⟩
  | (name, j) :: fs, (_, k) :: hs, hexact, ⟨rfl, hsame, h⟩, entries, hmem => by
      rw [fieldsExact, Bool.and_eq_true] at hexact
      obtain ⟨hlength, hamong⟩ := entriesAmong_ofJson fs hs hexact.2 h entries
        fun name k hk => hmem name k (List.mem_cons_of_mem _ hk)
      refine ⟨by rw [List.length_cons, List.length_cons, hlength], ?_⟩
      have hfirst := hmem name k List.mem_cons_self
      rw [ofJsonFields, entriesAmong, hamong, Bool.and_true]
      refine List.any_eq_true.mpr ⟨_, hfirst, ?_⟩
      rw [same_text, same_ofJson j k hexact.1 hsame]
      simp

end

theorem IsText.isPlain {v : Value} (h : v.IsText) : v.IsPlain := by
  obtain ⟨s, rfl⟩ := h
  trivial

end Value

namespace Report.Sarif

variable {π : Type} {tree : FileTree π} {root : Path}

/-! ## Reports are read back -/

theorem list_isPlain {α : Type} {f : α → Value} {xs : List α} (h : ∀ x ∈ xs, (f x).IsPlain) :
    (Value.list (xs.map f)).IsPlain := by
  rw [Value.IsPlain, Value.arePlain_iff]
  exact List.forall_mem_map.mpr h

theorem Location.isPlain_toValue (l : Location) : l.toValue.IsPlain := by
  rw [Location.toValue, artifactValue, Region.toValue]
  simp [mappingOf, Value.IsPlain, Value.EntriesPlain]

theorem Replacement.isPlain_toValue {c : Replacement} (h : c.text.IsText) : c.toValue.IsPlain := by
  rw [Replacement.toValue, artifactValue, Region.toValue]
  simp [mappingOf, Value.IsPlain, Value.ArePlain, Value.EntriesPlain, h.isPlain]

theorem Rule.isPlain_toValue {m : AnalyzerMessage} (h : m.IsTextual) :
    (Rule.ofMessage m).toValue.IsPlain := by
  have hshort := fun htrue => (isText_of_isTrue h.shortDescription htrue).isPlain
  have hhelp := fun htrue => (isText_of_isTrue h.helpUri htrue).isPlain
  rw [Rule.toValue, Rule.ofMessage]
  by_cases hs : m.shortDescription.isTrue = true <;> by_cases hh : m.helpUri.isTrue = true <;>
    simp [mappingOf, Value.IsPlain, Value.EntriesPlain, hs, hh, h.code.isPlain, h.name.isPlain,
      hshort, hhelp]

theorem Result.isPlain_toValue {m : AnalyzerMessage} {r : Result} (h : r.Describes tree root m)
    (htextual : m.IsTextual) : r.toValue.IsPlain := by
  have hfixes : (Value.list (r.fixes.map Replacement.toValue)).IsPlain := by
    refine list_isPlain fun c hc => Replacement.isPlain_toValue ?_
    obtain ⟨f, hf, -, hafter⟩ := exists_of_mem_right h.fixes hc
    exact hafter ▸ htextual.fixes f hf
  rw [Result.toValue, h.ruleId, h.level, h.text]
  by_cases hnone : r.fixes.isEmpty = true
  · simp [mappingOf, Value.IsPlain, Value.ArePlain, Value.EntriesPlain, hnone,
      htextual.code.isPlain, htextual.text.isPlain, Location.isPlain_toValue]
  · rw [Value.IsPlain] at hfixes
    simp [mappingOf, Value.IsPlain, Value.ArePlain, Value.EntriesPlain, hnone,
      htextual.code.isPlain, htextual.text.isPlain, Location.isPlain_toValue, hfixes]

theorem Log.isPlain_toValue {messages : List AnalyzerMessage} {log : Log}
    (h : log.Reports tree messages) (htextual : ∀ m ∈ messages, m.IsTextual) :
    log.toValue.IsPlain := by
  have hsorted : ∀ m ∈ inOrder messages, m.IsTextual :=
    fun m hm => htextual m (mem_inOrder.mp hm)
  have hrules : (Value.list (log.rules.map Rule.toValue)).IsPlain := by
    refine list_isPlain fun rule hrule => ?_
    obtain ⟨firsts, -, hfirsts, hrules⟩ := h.rules.firsts
    obtain ⟨f, hf, rfl⟩ := List.mem_map.mp (hrules ▸ hrule)
    exact Rule.isPlain_toValue (hsorted f.2 (List.mem_of_getElem? (hfirsts f hf).1))
  have hresults : (Value.list (log.results.map Result.toValue)).IsPlain := by
    refine list_isPlain fun r hr => ?_
    obtain ⟨m, hm, hdescribes, -⟩ := exists_of_mem_right h.results hr
    exact Result.isPlain_toValue hdescribes (hsorted m hm)
  rw [Value.IsPlain] at hrules hresults
  rw [Log.toValue]
  simp [mappingOf, Value.IsPlain, Value.ArePlain, Value.EntriesPlain, hrules, hresults]

/-- What is opened for a report is an empty file at the end of its path. -/
theorem openFile_ok {report : String} {path : Path} {opened : FileTree π}
    (h : openFile tree report = (.ok path, opened)) :
    ∃ place, opened.locate path = .ok (place, .file (Text.Utf8.encode "") none) := by
  unfold openFile at h
  split at h
  next => cases h
  next p hp =>
    split at h
    next => cases h
    next made hmade =>
      split at h
      next => cases h
      next hwritten =>
        cases h
        unfold FileTree.makeDirectory at hmade
        split at hmade
        next => cases hmade
        next =>
          obtain ⟨hroot, hups⟩ := FileTree.of_resolve hp
          refine FileTree.locate_of_writeText_new ⟨hroot, hups, fun k hk => ?_⟩ hwritten
          have hlength : k ≤ path.parent.parts.length := by
            rw [Path.parent, List.length_dropLast]
            omega
          have hdirectory := FileTree.makeDirectories_directories rfl hmade k hlength
          rw [List.nil_append, Path.parent, List.dropLast_eq_take, List.take_take] at hdirectory
          rwa [Nat.min_eq_left (by omega)] at hdirectory

/-- A report is written only if it fits the schema. -/
theorem checkedValue_eq {root : Option String} {messages : List AnalyzerMessage} {log : Log}
    (hlog : Log.ofMessages tree root messages = .ok log) :
    checkedValue tree root messages = match schema.check log.toValue with
      | some fault => .error (.invalid fault)
      | none => .ok log.toValue := by
  rw [checkedValue, hlog]
  cases h : schema.check log.toValue <;>
    simp [orFailed, h, bind, Except.bind, throw, throwThe, MonadExceptOf.throw, pure, Except.pure]

/-- The file of a report that is written holds its canonical text. -/
theorem readText_of_writeIn {report : String} {root : Option String}
    {messages : List AnalyzerMessage} {log : Value} {path : Path} {after : FileTree π}
    (hlog : checkedValue tree root messages = .ok log) (hexact : log.toJson.isExact = true)
    (hwrite : writeIn tree report root messages = (.ok path, after)) :
    after.readText path = .ok (Json.canonicalText (.lines 2) log.toJson) := by
  simp only [writeIn, hlog] at hwrite
  split at hwrite
  next => cases hwrite
  next opening opened hopen =>
    split at hwrite
    next => cases hwrite
    next written hwritten =>
      cases hwrite
      obtain ⟨text, htext, hwritten⟩ := Attempt.of_bind_eq_ok hwritten
      obtain ⟨place, hplace⟩ := openFile_ok hopen
      have htext : text = Json.canonicalText (.lines 2) log.toJson := by
        unfold Value.canonicalText at htext
        split at htext
        next => cases htext
        next => exact (Except.ok.inj htext).symm
      subst htext
      refine FileTree.readText_of_locate (FileTree.locate_of_writeText hplace hwritten) ?_
      simp [Json.canonicalText, Json.return_not_mem_render _ _ _ (Json.isExact_canonical _ hexact)]

/-- The schema accepts a report exactly if no code is empty. A report with an empty code is refused
and nothing is touched; what is written is read back as the report. -/
theorem writeIn_agrees (tree : FileTree π) (report : String) (root : Option String)
    (messages : List AnalyzerMessage) (place : Path)
    (htextual : ∀ m ∈ messages, m.IsTextual) (hroot : codeRoot tree root = .ok place)
    (hfiles : ∀ m ∈ messages, ∀ file ∈ m.files,
      ∃ uri, artifactUri tree place file = .ok uri) :
    ∃ log, Log.ofMessages tree root messages = .ok log ∧
      (schema.check log.toValue = none ↔ ∀ m ∈ messages, m.code ≠ .text "") ∧
      ((∃ m ∈ messages, m.code = .text "") →
        ∃ fault, writeIn tree report root messages = (.error (.invalid fault), tree)) ∧
      ∀ path after, writeIn tree report root messages = (.ok path, after) →
        ∃ text j, after.readText path = .ok text ∧ Json.parse? text = some j ∧
          (Value.ofJson j).same log.toValue = true := by
  have hnamed : ∀ m ∈ messages, m.IsNamed := fun m hm => (htextual m hm).toIsNamed
  obtain ⟨log, hlog⟩ := (Log.ofMessages_isOk_iff hnamed).mpr ⟨place, hroot, hfiles⟩
  have hreports := (Log.reports_of_ok hnamed hlog).2
  have hchecked := checkedValue_eq hlog
  have hcheck : schema.check log.toValue = none ↔ ∀ m ∈ messages, m.code ≠ .text "" := by
    rw [Schema.check_eq_none_iff, schema_accepts_iff hreports htextual]
  refine ⟨log, hlog, hcheck, ?_, ?_⟩
  · rintro ⟨m, hm, hempty⟩
    cases hfault : schema.check log.toValue with
    | none => exact absurd hempty (hcheck.mp hfault m hm)
    | some fault =>
        rw [hfault] at hchecked
        exact ⟨fault, by rw [writeIn, hchecked]⟩
  · intro path after hwrite
    cases hfault : schema.check log.toValue with
    | some fault =>
        rw [hfault] at hchecked
        rw [writeIn, hchecked] at hwrite
        cases hwrite
    | none =>
        rw [hfault] at hchecked
        obtain ⟨hback, hexact⟩ := Value.ofJson_toJson _ (Log.isPlain_toValue hreports htextual)
        obtain ⟨j, htext, hread, halike, -⟩ := Value.isWritten_canonicalText (.lines 2) hexact
        refine ⟨_, j, readText_of_writeIn hchecked hexact hwrite, hread, ?_⟩
        rw [← hback]
        exact Value.same_ofJson j _ hexact halike

/-- A message whose range lies before the file. -/
def strayMessage (code : String) : AnalyzerMessage :=
  { message := { type := .text "t", text := .text "m", code := .text code, severity := .error
                 range := ⟨"a.py", 0, -1, -2, -3⟩ }
    name := .text "A" }

theorem isTextual_strayMessage (code : String) : (strayMessage code).IsTextual :=
  { code := ⟨code, rfl⟩, name := ⟨"A", rfl⟩, text := ⟨"m", rfl⟩, shortDescription := .inl rfl
    helpUri := .inl rfl, fixes := fun _ hf => absurd hf List.not_mem_nil }

/-- A message with an empty code is refused wherever its range lies. -/
theorem writeIn_agrees_stray :
    let messages := [strayMessage "C1", strayMessage ""]
    (∀ m ∈ messages, m.IsTextual) ∧
      ∃ fault, writeIn ({} : FileTree Unit) "r.sarif" none messages =
        (.error (.invalid fault), {}) := by
  intro messages
  have htextual : ∀ m ∈ messages, m.IsTextual := by
    intro m hm
    rcases List.mem_pair.mp hm with rfl | rfl <;> exact isTextual_strayMessage _
  have huri : artifactUri ({} : FileTree Unit) { root := .slash } "a.py" = .ok "a.py" := by
    decide +kernel
  have hfiles : ∀ m ∈ messages, ∀ file ∈ m.files,
      ∃ uri, artifactUri ({} : FileTree Unit) { root := .slash } file = .ok uri := by
    intro m hm file hfile
    have hfile : file = "a.py" := by
      rcases List.mem_pair.mp hm with rfl | rfl <;> exact List.mem_singleton.mp hfile
    exact ⟨"a.py", hfile ▸ huri⟩
  obtain ⟨log, -, -, hrefused, -⟩ :=
    writeIn_agrees ({} : FileTree Unit) "r.sarif" none messages _ htextual rfl hfiles
  exact ⟨htextual, hrefused ⟨strayMessage "", by simp [messages], rfl⟩⟩

/-- A code root that is no path fails before a code is looked at. -/
theorem writeIn_nul_root :
    writeIn ({} : FileTree Unit) "r.sarif" (some "a\x00b") [strayMessage ""] =
      (.error (.failed (.value "embedded null byte")), {}) := by
  have hnul : FileTree.hasNul (Path.ofString "a\x00b") = true := by decide +kernel
  rw [writeIn, checkedValue, Log.ofMessages, codeRoot, if_neg (by decide),
    FileTree.resolve_of_hasNul hnul]
  rfl

end Report.Sarif

end Assay
