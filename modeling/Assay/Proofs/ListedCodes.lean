import Assay.Proofs.Configuration
import Assay.Proofs.Discovery
import Assay.Proofs.Preparation
import Mathlib.Data.Finset.Card
import Mathlib.Tactic.TFAE

/-! # Codes that are listed for severities

The codes for each severity are a set. As many codes are listed as there are different ones just if
no two sets meet, and that is when a code has the same severity in whatever order the sets are tried.
The codes that are listed too often are those in two of the sets.
-/

namespace Assay

/-! ## Sets of texts -/

theorem length_eraseDups_eq_iff {α : Type} [BEq α] [LawfulBEq α] {xs : List α} :
    xs.length = xs.eraseDups.length ↔ xs.Nodup := by
  constructor
  · intro h
    rw [← (eraseDups_sublist xs).eq_of_length h.symm]
    exact nodup_eraseDups xs
  · intro h
    have hperm : xs.eraseDups.Perm xs :=
      (List.perm_ext_iff_of_nodup (nodup_eraseDups xs) h).mpr fun x => List.mem_eraseDups
    exact hperm.length_eq.symm

theorem eraseDups_map_text (texts : List String) :
    (texts.map Value.text).eraseDups = texts.eraseDups.map Value.text := by
  match texts with
  | [] => rfl
  | s :: texts =>
      have hsame : ((fun v => !v == Value.text s) ∘ Value.text) = fun t => !t == s := by
        funext t
        exact congrArg Bool.not ((Value.same_texts t s).trans (beq_eq_decide t s).symm)
      rw [List.map_cons, List.eraseDups_cons, List.eraseDups_cons, List.filter_map, hsame,
        eraseDups_map_text, List.map_cons]
termination_by texts.length
decreasing_by exact Nat.lt_succ_of_le (List.length_filter_le _ _)

theorem contains_map_text (texts : List String) (s : String) :
    (texts.map Value.text).contains (.text s) = decide (s ∈ texts) := by
  rw [List.contains_eq_any_beq, List.any_map]
  refine Bool.eq_iff_iff.mpr ?_
  simp only [List.any_eq_true, Function.comp_apply, decide_eq_true_iff]
  constructor
  · rintro ⟨t, ht, hsame⟩
    have hsame : s = t := of_decide_eq_true ((Value.same_texts s t).symm.trans hsame)
    exact hsame ▸ ht
  · exact fun hs => ⟨s, hs, (Value.same_texts s s).trans (decide_eq_true rfl)⟩

theorem isTextual_map_text {texts : List String} : ∀ v ∈ texts.map Value.text, v.IsTextual :=
  List.forall_mem_map.mpr fun s _ => Value.isTextual_text s

/-- Different texts are put in order, and none of them is lost. -/
theorem sorted_map_text {texts : List String} (h : texts.Nodup) :
    ∃ sorted : List String, Value.sorted (texts.map .text) = .ok (sorted.map .text) ∧
      sorted.Pairwise (· < ·) ∧ ∀ s, s ∈ sorted ↔ s ∈ texts := by
  refine ⟨Value.sortByKey id texts, ?_, Value.sortByKey_strict id (by rwa [List.map_id]),
    fun s => (Value.sortByKey_perm id texts).mem_iff⟩
  rw [Value.sorted_textual isTextual_map_text, Value.sortByKey, Value.sortBy_map]
  simp only [Value.text?_text, Option.getD_some, Value.sortByKey, id]

theorem joinTexts_map_text (texts : List String) :
    Value.joinTexts (texts.map .text) = .ok (Value.commaed texts) := by
  rw [Value.joinTexts_textual isTextual_map_text, List.filterMap_map]
  congr 2
  exact (List.filterMap_congr fun s _ => Value.text?_text s).trans List.filterMap_some

/-! ## Lists of codes -/

namespace SeverityMappings

/-- The mappings of the texts that are listed for each severity. -/
def ofTexts (listed : Severity → List String) : SeverityMappings :=
  ofLists ((listed .info).map .text) ((listed .hint).map .text) ((listed .warning).map .text)
    ((listed .error).map .text)

/-- The severity that a code is given if the sets are tried in some order. -/
def targetIn (m : SeverityMappings) (order : List Severity) (code : Value) : Option Severity :=
  order.find? fun s => (m.codes s).contains code

variable (listed : Severity → List String)

theorem codes_ofTexts (s : Severity) :
    (ofTexts listed).codes s = (listed s).eraseDups.map .text := by
  cases s <;> exact eraseDups_map_text _

theorem contains_codes (s : Severity) (code : String) :
    ((ofTexts listed).codes s).contains (.text code) = decide (code ∈ listed s) := by
  rw [codes_ofTexts, contains_map_text]
  exact decide_eq_decide.mpr List.mem_eraseDups

/-- All codes, each as often as there are sets with it. -/
def occurrences : List String := Severity.all.flatMap fun s => (listed s).eraseDups

theorem listed_ofTexts : (ofTexts listed).listed = (occurrences listed).map .text := by
  rw [SeverityMappings.listed, occurrences, List.map_flatMap]
  exact List.flatMap_congr fun s _ => codes_ofTexts listed s

/-- A code occurs once for each set with it. -/
theorem count_occurrences (code : String) :
    (occurrences listed).count code = (Severity.all.filter fun s => code ∈ listed s).length := by
  have hset : ∀ s, (listed s).eraseDups.count code = if code ∈ listed s then 1 else 0 := by
    intro s
    rw [(nodup_eraseDups (listed s)).count]
    simp only [List.mem_eraseDups]
  unfold occurrences
  induction Severity.all with
  | nil => rfl
  | cons s rest ih =>
      rw [List.flatMap_cons, List.count_append, hset, ih, List.filter_cons]
      split <;> simp_all [Nat.add_comm]

theorem mem_all (s : Severity) : s ∈ Severity.all := by
  cases s <;> decide

theorem nodup_all : Severity.all.Nodup := by decide

/-- A code occurs twice just if it is in two sets. -/
theorem one_lt_count_occurrences_iff (code : String) :
    1 < (occurrences listed).count code ↔ ∃ s t, s ≠ t ∧ code ∈ listed s ∧ code ∈ listed t := by
  rw [count_occurrences, ← List.toFinset_card_of_nodup (nodup_all.filter _), Finset.one_lt_card]
  simp only [List.mem_toFinset, List.mem_filter, mem_all, true_and, decide_eq_true_iff]
  constructor
  · rintro ⟨s, hs, t, ht, hne⟩
    exact ⟨s, t, hne, hs, ht⟩
  · rintro ⟨s, t, hne, hs, ht⟩
    exact ⟨s, hs, t, ht, hne⟩

theorem isValid_ofTexts : (ofTexts listed).isValid = true ↔ (occurrences listed).Nodup := by
  rw [isValid, decide_eq_true_iff, listed_ofTexts, eraseDups_map_text, List.length_map,
    List.length_map, length_eraseDups_eq_iff]

theorem nodup_occurrences_iff :
    (occurrences listed).Nodup ↔ ∀ s t, s ≠ t → (listed s).Disjoint (listed t) := by
  rw [List.nodup_iff_count_le_one]
  simp only [← Nat.not_lt, one_lt_count_occurrences_iff]
  constructor
  · intro h s t hne code hs ht
    exact h code ⟨s, t, hne, hs, ht⟩
  · rintro h code ⟨s, t, hne, hs, ht⟩
    exact h s t hne hs ht

/-! ## Conflicts -/

theorem conflictingCodes_ofTexts :
    ∃ codes : List String, (ofTexts listed).conflictingCodes = .ok (codes.map .text) ∧
      codes.Pairwise (· < ·) ∧
      ∀ code, code ∈ codes ↔ ∃ s t, s ≠ t ∧ code ∈ listed s ∧ code ∈ listed t := by
  have hcount : ∀ code, (((occurrences listed).map Value.text).filter
      (· == Value.text code)).length = (occurrences listed).count code := by
    intro code
    rw [List.filter_map, List.length_map, List.count_eq_length_filter]
    congr 2
    funext s
    exact (Value.same_texts s code).trans (beq_eq_decide s code).symm
  have hconflicting : (ofTexts listed).listed.eraseDups.filter
      (fun code => 1 < ((ofTexts listed).listed.filter (· == code)).length) =
        ((occurrences listed).eraseDups.filter fun code =>
          1 < (occurrences listed).count code).map .text := by
    rw [listed_ofTexts, eraseDups_map_text, List.filter_map]
    simp only [Function.comp_def, hcount]
  obtain ⟨codes, hsorted, hascending, hmem⟩ := sorted_map_text
    ((nodup_eraseDups (occurrences listed)).filter fun code => 1 < (occurrences listed).count code)
  refine ⟨codes, ?_, hascending, fun code => ?_⟩
  · rw [conflictingCodes, hconflicting, hsorted, Except.mapError]
  · rw [hmem, List.mem_filter, List.mem_eraseDups, decide_eq_true_iff,
      one_lt_count_occurrences_iff, and_iff_right_iff_imp, ← one_lt_count_occurrences_iff]
    exact fun htwice => List.count_pos_iff.mp (Nat.zero_lt_of_lt htwice)

/-- Mappings that are refused are refused with their conflicting codes. -/
theorem ensureValid_ofTexts {codes : List String}
    (h : (ofTexts listed).conflictingCodes = .ok (codes.map .text)) :
    (ofTexts listed).ensureValid =
      if (ofTexts listed).isValid then .ok ()
      else .error (.config ("An analyzer code may only be listed once in the treat-as-severity " ++
        s!"options (conflicting: {Value.commaed codes}).")) := by
  unfold ensureValid
  cases (ofTexts listed).isValid with
  | true => rfl
  | false =>
      simp only [Bool.not_false, if_true, h, joinTexts_map_text, Attempt.ok_bind]
      rfl

/-! ## Orders -/

/-- If no two sets meet there is at most one set with a code, which is found in any order. -/
theorem targetIn_eq_some_iff (h : ∀ s t, s ≠ t → (listed s).Disjoint (listed t))
    {order : List Severity} {code : String} {s : Severity} :
    (ofTexts listed).targetIn order (.text code) = some s ↔ s ∈ order ∧ code ∈ listed s := by
  unfold targetIn
  simp only [contains_codes]
  constructor
  · intro hfind
    exact ⟨List.mem_of_find?_eq_some hfind, by simpa using List.find?_some hfind⟩
  · rintro ⟨hs, hcode⟩
    cases hfind : order.find? fun s => decide (code ∈ listed s) with
    | none => exact absurd (decide_eq_true hcode) (List.find?_eq_none.mp hfind s hs)
    | some t =>
        have ht : code ∈ listed t := by simpa using List.find?_some hfind
        by_contra hne
        exact h t s (fun heq => hne (congrArg some heq)) ht hcode

theorem targetIn_cons_of_mem {s : Severity} {code : String} (h : code ∈ listed s)
    (order : List Severity) : (ofTexts listed).targetIn (s :: order) (.text code) = some s := by
  rw [targetIn, List.find?_cons_of_pos]
  rw [contains_codes, decide_eq_true_iff]
  exact h

/-- The sets meet nowhere just if the order in which they are tried does not matter. -/
theorem disjoint_iff_targetIn :
    (∀ s t, s ≠ t → (listed s).Disjoint (listed t)) ↔
      ∀ code order, order.Perm Severity.all →
        (ofTexts listed).targetIn order (.text code) = (ofTexts listed).targetFor (.text code) := by
  constructor
  · intro h code order horder
    refine Option.ext fun s => ?_
    change _ ↔ (ofTexts listed).targetIn Severity.all (.text code) = some s
    rw [targetIn_eq_some_iff listed h, targetIn_eq_some_iff listed h, horder.mem_iff]
  · intro h s t hne code hs ht
    -- each of the two severities can be tried first
    have hfirst : ∀ s, code ∈ listed s → (ofTexts listed).targetFor (.text code) = some s := by
      intro s hs
      rw [← h code _ (List.perm_cons_erase (mem_all s)).symm]
      exact targetIn_cons_of_mem listed hs _
    exact hne (Option.some.inj ((hfirst s hs).symm.trans (hfirst t ht)))

/-! ## Validity -/

/-- Mappings are valid just if they are not ambiguous, in whatever way this is asked: no two sets
meet, no code is in conflict, the mappings are not refused, and the severity of a code does not
depend on the order of the sets. The conflicting codes are those in two sets, in order, and they are
what mappings are refused with. -/
theorem isValid_tfae :
    ∃ codes : List String, (ofTexts listed).conflictingCodes = .ok (codes.map .text) ∧
      codes.Pairwise (· < ·) ∧
      (∀ code, code ∈ codes ↔ ∃ s t, s ≠ t ∧ code ∈ listed s ∧ code ∈ listed t) ∧
      [(ofTexts listed).isValid = true,
        ∀ s t, s ≠ t → (listed s).Disjoint (listed t),
        (ofTexts listed).conflictingCodes = .ok [],
        (ofTexts listed).ensureValid = .ok (),
        ∀ code order, order.Perm Severity.all → (ofTexts listed).targetIn order (.text code) =
          (ofTexts listed).targetFor (.text code)].TFAE ∧
      ((ofTexts listed).ensureValid ≠ .ok () → (ofTexts listed).ensureValid = .error (.config
        ("An analyzer code may only be listed once in the treat-as-severity " ++
          s!"options (conflicting: {Value.commaed codes})."))) := by
  obtain ⟨codes, hcodes, hascending, hmem⟩ := conflictingCodes_ofTexts listed
  have hensure := ensureValid_ofTexts listed hcodes
  refine ⟨codes, hcodes, hascending, hmem, ?_, ?_⟩
  · tfae_have 1 ↔ 2 := (isValid_ofTexts listed).trans (nodup_occurrences_iff listed)
    tfae_have 2 ↔ 3 := by
      rw [hcodes, Except.ok.injEq, List.map_eq_nil_iff, List.eq_nil_iff_forall_not_mem]
      simp only [hmem]
      constructor
      · rintro h code ⟨s, t, hne, hs, ht⟩
        exact h s t hne hs ht
      · intro h s t hne code hs ht
        exact h code ⟨s, t, hne, hs, ht⟩
    tfae_have 1 ↔ 4 := by
      rw [hensure]
      split <;> simp_all
    tfae_have 2 ↔ 5 := disjoint_iff_targetIn listed
    tfae_finish
  · intro hrefused
    rw [hensure] at hrefused ⊢
    split at hrefused
    next => exact absurd rfl hrefused
    next hinvalid => rw [if_neg hinvalid]

end SeverityMappings

end Assay
