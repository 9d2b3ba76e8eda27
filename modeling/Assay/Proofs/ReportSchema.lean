import Assay.Proofs.ReportLog

/-! # Reports and their schema

What a schema accepts is said apart from how faults are found; a check finds no fault exactly if the
schema accepts the value. A report of textual messages is accepted exactly if no rule has an empty
code: lines and columns are moved into the file, and all else is written as the schema wants it.
-/

namespace Assay

/-- A message with texts where texts belong. Descriptions can be missing. -/
structure AnalyzerMessage.IsTextual (m : AnalyzerMessage) : Prop extends m.IsNamed where
  text : m.message.text.IsText
  shortDescription : m.shortDescription = .none ∨ m.shortDescription.IsText
  helpUri : m.helpUri = .none ∨ m.helpUri.IsText
  fixes : ∀ f ∈ m.message.fixes, f.after.IsText

namespace Report

namespace Schema

/-! ## What a schema accepts -/

mutual

/-- Whether a schema accepts a value. -/
def Accepts : Schema → Value → Prop
  | text leastLength, v => ∃ s, v.text? = some s ∧ leastLength ≤ s.length
  | integer minimum, v => ∃ n, wholeNumber? v = some n ∧ ∀ least ∈ minimum, least ≤ n
  | constant value, v => v.same (.text value) = true
  | oneOf values, v => ∃ value ∈ values, v.same (.text value) = true
  | object required properties, v => ∃ entries, v = .mapping entries ∧
      (∀ name ∈ required, (lookup? name entries).isSome) ∧ PropertiesAccept properties entries
  | array leastItems items, v => ∃ values, v = .list values ∧ leastItems ≤ values.length ∧
      ∀ value ∈ values, Accepts items value

/-- Whether the schemas of properties accept the entries under their names. -/
def PropertiesAccept : List (String × Schema) → List (Value × Value) → Prop
  | [], _ => True
  | (name, schema) :: rest, entries =>
      (∀ v ∈ lookup? name entries, Accepts schema v) ∧ PropertiesAccept rest entries

end

mutual

/-- A value has no faults exactly if the schema accepts it, whatever path leads to it. -/
theorem faults_eq_nil_iff (path : List Step) (v : Value) :
    (schema : Schema) → (schema.faults path v = [] ↔ schema.Accepts v)
  | text leastLength => by
      rw [faults.eq_def, Accepts]
      cases hs : v.text? <;> simp [hs]
  | integer minimum => by
      rw [faults.eq_def, Accepts]
      cases hn : wholeNumber? v with
      | none => simp [hn]
      | some n => cases minimum <;> simp [hn]
  | constant value => by simp [faults, Accepts]
  | oneOf values => by simp [faults, Accepts]
  | object required properties => by
      rw [faults.eq_def, Accepts]
      cases v with
      | mapping entries =>
          simp [propertyFaults_eq_nil_iff path entries properties, Option.isSome_iff_ne_none]
      | _ => simp
  | array leastItems items => by
      rw [faults.eq_def, Accepts]
      cases v with
      | list values =>
          have hitem := fun (x : Value × Nat) =>
            faults_eq_nil_iff (path ++ [.index x.2]) x.1 items
          have hvalues : (∀ x ∈ values.zipIdx, items.Accepts x.1) ↔
              ∀ value ∈ values, items.Accepts value := by
            rw [← List.forall_mem_map (P := items.Accepts), List.zipIdx_map_fst]
          rw [Prod.forall] at hvalues
          simp [List.flatMap_eq_nil_iff, hitem, hvalues]
      | _ => simp

theorem propertyFaults_eq_nil_iff (path : List Step) (entries : List (Value × Value)) :
    (properties : List (String × Schema)) →
      (propertyFaults properties path entries = [] ↔ PropertiesAccept properties entries)
  | [] => by simp [propertyFaults, PropertiesAccept]
  | (name, schema) :: rest => by
      rw [propertyFaults, PropertiesAccept, List.append_eq_nil_iff,
        propertyFaults_eq_nil_iff path entries rest]
      cases lookup? name entries with
      | none => simp
      | some v => simp [faults_eq_nil_iff (path ++ [.key name]) v schema]

end

theorem best_eq_none_iff (faults : List SchemaFault) : best faults = none ↔ faults = [] := by
  cases faults <;> simp [best]

/-- A check finds nothing exactly if the schema accepts the value. -/
theorem check_eq_none_iff (schema : Schema) (v : Value) :
    schema.check v = none ↔ schema.Accepts v := by
  rw [check, best_eq_none_iff, faults_eq_nil_iff]

theorem propertiesAccept_iff (properties : List (String × Schema))
    (entries : List (Value × Value)) :
    PropertiesAccept properties entries ↔
      ∀ p ∈ properties, ∀ v ∈ lookup? p.1 entries, p.2.Accepts v := by
  induction properties with
  | nil => simp [PropertiesAccept]
  | cons p rest ih => rw [PropertiesAccept, ih, List.forall_mem_cons]

end Schema

namespace Sarif

open Schema

variable {π : Type} {tree : FileTree π} {root : Path}

/-- The value under a name among fields. -/
def fieldOf? (name : String) (fields : List (String × Value)) : Option Value :=
  (fields.find? fun f => f.1 = name).map Prod.snd

theorem object_accepts_iff (required : List String) (properties : List (String × Schema))
    (fields : List (String × Value)) :
    (Schema.object required properties).Accepts (mappingOf fields) ↔
      (∀ name ∈ required, (fieldOf? name fields).isSome) ∧
        ∀ p ∈ properties, ∀ v ∈ fieldOf? p.1 fields, p.2.Accepts v := by
  rw [Accepts, mappingOf]
  simp only [Value.mapping.injEq, exists_eq_left', propertiesAccept_iff, lookup?_fields, fieldOf?]

theorem array_accepts_iff (leastItems : Nat) (items : Schema) (values : List Value) :
    (Schema.array leastItems items).Accepts (.list values) ↔
      leastItems ≤ values.length ∧ ∀ value ∈ values, items.Accepts value := by
  rw [Accepts]
  simp only [Value.list.injEq, exists_eq_left']

theorem text_accepts_iff (leastLength : Nat) (s : String) :
    (Schema.text leastLength).Accepts (.text s) ↔ leastLength ≤ s.length := by
  simp [Accepts]

theorem integer_accepts_iff (least n : Int) :
    (Schema.integer (some least)).Accepts (.int n) ↔ least ≤ n := by
  simp [Accepts, wholeNumber?, Value.number?]

theorem constant_accepts_iff (value s : String) :
    (Schema.constant value).Accepts (.text s) ↔ s = value := by
  rw [Accepts, Value.same_texts, decide_eq_true_iff]

/-- Regions begin in the file, wherever the range lies. -/
theorem regionSchema_accepts (r : Range) : regionSchema.Accepts (Region.ofRange r).toValue := by
  have hleast : ∀ column : Int, 1 ≤ max column 0 + 1 := fun column => by omega
  rw [regionSchema, Region.toValue, object_accepts_iff]
  simp [fieldOf?, integer_accepts_iff, Region.ofRange, hleast]

theorem artifactSchema_accepts (uri : String) : artifactSchema.Accepts (artifactValue uri) := by
  rw [artifactSchema, artifactValue, object_accepts_iff]
  simp [fieldOf?, anyText, text_accepts_iff]

theorem messageSchema_accepts {v : Value} (hv : v.IsText) :
    messageSchema.Accepts (mappingOf [("text", v)]) := by
  obtain ⟨s, rfl⟩ := hv
  rw [messageSchema, object_accepts_iff]
  simp [fieldOf?, anyText, text_accepts_iff]

theorem locationSchema_accepts {l : Location} {r : Range} (h : l.region = Region.ofRange r) :
    locationSchema.Accepts l.toValue := by
  have hplace : (Schema.object ["artifactLocation", "region"]
      [("artifactLocation", artifactSchema), ("region", regionSchema)]).Accepts
      (mappingOf [("artifactLocation", artifactValue l.uri), ("region", l.region.toValue)]) := by
    rw [object_accepts_iff]
    simp [fieldOf?, artifactSchema_accepts, h ▸ regionSchema_accepts r]
  rw [locationSchema, Location.toValue, object_accepts_iff]
  simp [fieldOf?, hplace]

theorem fixSchema_accepts {c : Replacement} {r : Range}
    (h : c.location.region = Region.ofRange r) (htext : c.text.IsText) :
    fixSchema.Accepts c.toValue := by
  obtain ⟨s, hs⟩ := htext
  have hcontent : (Schema.object [] [("text", anyText)]).Accepts
      (mappingOf [("text", .text s)]) := by
    rw [object_accepts_iff]
    simp [fieldOf?, anyText, text_accepts_iff]
  have hreplacement : (Schema.object ["deletedRegion"] [("deletedRegion", regionSchema),
      ("insertedContent", .object [] [("text", anyText)])]).Accepts
      (mappingOf [("deletedRegion", c.location.region.toValue),
        ("insertedContent", mappingOf [("text", .text s)])]) := by
    rw [object_accepts_iff]
    simp [fieldOf?, hcontent, h ▸ regionSchema_accepts r]
  rw [fixSchema, Replacement.toValue, hs, object_accepts_iff]
  simp [fieldOf?, array_accepts_iff, object_accepts_iff, artifactSchema_accepts, hreplacement]

theorem levelOf_accepts (s : Severity) :
    (Schema.oneOf ["none", "note", "warning", "error"]).Accepts (.text (levelOf s)) := by
  cases s <;> simp [Accepts, levelOf, Value.same_texts]

theorem anyText_accepts {v : Value} (hv : v.IsText) : anyText.Accepts v := by
  obtain ⟨s, rfl⟩ := hv
  exact (text_accepts_iff 0 s).mpr (Nat.zero_le _)

/-- What is written of a description is a text. -/
theorem isText_of_isTrue {v : Value} (hv : v = .none ∨ v.IsText) (h : v.isTrue = true) :
    v.IsText := by
  rcases hv with rfl | hv
  · cases h
  · exact hv

/-- A rule of a textual message is accepted unless its code is empty. -/
theorem ruleSchema_accepts_iff {m : AnalyzerMessage} (h : m.IsTextual) :
    ruleSchema.Accepts (Rule.ofMessage m).toValue ↔ m.code ≠ .text "" := by
  obtain ⟨code, hcode⟩ := h.code
  have hid : (Schema.text 1).Accepts (.text code) ↔ code ≠ "" := by
    rw [text_accepts_iff, Nat.one_le_iff_ne_zero, Ne, String.length_eq_zero_iff]
  have hname := anyText_accepts h.name
  have hshort := fun htrue => messageSchema_accepts (isText_of_isTrue h.shortDescription htrue)
  have hhelp := fun htrue => anyText_accepts (isText_of_isTrue h.helpUri htrue)
  rw [ruleSchema, Rule.toValue, object_accepts_iff, Rule.ofMessage, hcode]
  -- each description is written or left out
  by_cases hs : m.shortDescription.isTrue = true <;> by_cases hh : m.helpUri.isTrue = true <;>
    simp [fieldOf?, hs, hh, hid, hname, hshort, hhelp]

theorem exists_of_mem_right {α β : Type} {R : α → β → Prop} {xs : List α} {ys : List β}
    (h : List.Forall₂ R xs ys) {y : β} (hy : y ∈ ys) : ∃ x ∈ xs, R x y := by
  obtain ⟨i, hi, rfl⟩ := List.mem_iff_getElem.mp hy
  have hlt : i < xs.length := h.length_eq ▸ hi
  exact ⟨xs[i], List.getElem_mem hlt, h.get hlt hi⟩

/-- A result that describes a textual message is accepted. -/
theorem resultSchema_accepts {m : AnalyzerMessage} {r : Result} (h : r.Describes tree root m)
    (htextual : m.IsTextual) : resultSchema.Accepts r.toValue := by
  have hcode := anyText_accepts htextual.code
  have htext := messageSchema_accepts htextual.text
  have hplace := locationSchema_accepts (locate_eq_ok_iff.mp h.location).2
  have hfixes : ∀ c ∈ r.fixes, fixSchema.Accepts c.toValue := by
    intro c hc
    obtain ⟨f, hf, hplace, hafter⟩ := exists_of_mem_right h.fixes hc
    exact fixSchema_accepts (locate_eq_ok_iff.mp hplace).2 (hafter ▸ htextual.fixes f hf)
  rw [resultSchema, Result.toValue, object_accepts_iff, h.ruleId, h.level, h.text]
  by_cases hnone : r.fixes.isEmpty = true
  · simp [fieldOf?, hnone, array_accepts_iff, integer_accepts_iff, hcode, htext, hplace,
      levelOf_accepts]
  · simpa [fieldOf?, hnone, array_accepts_iff, integer_accepts_iff, hcode, htext, hplace,
      levelOf_accepts] using hfixes

/-- The rules of a report are accepted exactly if no message has an empty code. -/
theorem rules_accepted_iff {messages : List AnalyzerMessage} {rules : List Rule}
    (h : AreRulesOf messages rules) (htextual : ∀ m ∈ messages, m.IsTextual) :
    (∀ rule ∈ rules, ruleSchema.Accepts rule.toValue) ↔ ∀ m ∈ messages, m.code ≠ .text "" := by
  obtain ⟨firsts, -, hfirsts, hrules⟩ := h.firsts
  have hmem : ∀ f ∈ firsts, f.2 ∈ messages := fun f hf => List.mem_of_getElem? (hfirsts f hf).1
  constructor
  · intro haccepts m hm
    obtain ⟨rule, hrule, hid⟩ := List.mem_map.mp (h.complete m hm)
    obtain ⟨f, hf, rfl⟩ := List.mem_map.mp (hrules ▸ hrule)
    rw [← hid]
    exact (ruleSchema_accepts_iff (htextual f.2 (hmem f hf))).mp (haccepts _ hrule)
  · intro hcodes rule hrule
    obtain ⟨f, hf, rfl⟩ := List.mem_map.mp (hrules ▸ hrule)
    exact (ruleSchema_accepts_iff (htextual f.2 (hmem f hf))).mpr (hcodes f.2 (hmem f hf))

/-- A report of textual messages is accepted exactly if none of them has an empty code. -/
theorem schema_accepts_iff {messages : List AnalyzerMessage} {log : Log}
    (h : log.Reports tree messages) (htextual : ∀ m ∈ messages, m.IsTextual) :
    schema.Accepts log.toValue ↔ ∀ m ∈ messages, m.code ≠ .text "" := by
  have hsorted : ∀ m ∈ inOrder messages, m.IsTextual :=
    fun m hm => htextual m (mem_inOrder.mp hm)
  have hrules := rules_accepted_iff h.rules hsorted
  simp only [mem_inOrder] at hrules
  have hresults : ∀ r ∈ log.results, resultSchema.Accepts r.toValue := by
    intro r hr
    obtain ⟨m, hm, hdescribes, -⟩ := exists_of_mem_right h.results hr
    exact resultSchema_accepts hdescribes (hsorted m hm)
  rw [← hrules, schema, Log.toValue, object_accepts_iff]
  simpa [fieldOf?, runSchema, array_accepts_iff, object_accepts_iff, anyText, text_accepts_iff,
    constant_accepts_iff] using fun _ => hresults

end Sarif

end Report

end Assay
