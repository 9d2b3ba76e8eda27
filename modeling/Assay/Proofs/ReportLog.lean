import Assay.Logged
import Assay.Proofs.PlainTree
import Assay.Proofs.Sorting
import Assay.Report.Sarif
import Mathlib.Data.List.Forall2
import Mathlib.Data.Prod.Lex

/-! # What a report says

The messages of a report are in stable order of their places, codes and analyzers. While results are
collected the table of rules grows; the rules there are so far describe the first messages with their
codes, in order, and keep their numbers. So every result finds its rule, and no rule is missing, too
many or there twice. In which order the messages arrive does not matter, unless they have one place.
-/

namespace Assay

/-- Whether a value is a text. -/
def Value.IsText (v : Value) : Prop := ∃ s, v = .text s

/-- A message whose code and analyzer are texts. -/
structure AnalyzerMessage.IsNamed (m : AnalyzerMessage) : Prop where
  code : m.code.IsText
  name : m.name.IsText

/-- The files that a message speaks of. -/
def AnalyzerMessage.files (m : AnalyzerMessage) : List String :=
  m.message.range.file :: m.message.fixes.map fun f => f.range.file

namespace Value

theorem same_texts (s t : String) : (text s).same (text t) = decide (s = t) := by
  rw [same_text, text?_text, beq_eq_decide]
  simp

theorem same_int (a b : Int) : (int a).same (int b) = decide (a = b) := by
  simp [same, sameNumbers, number?, sameNumber]

theorem less_int (a b : Int) : (int a).less (int b) = .ok (decide (a < b)) := by
  rw [less] <;> simp [text?, number?, numberLt]

/-- The first items decide unless they are equal. -/
theorem lessItems_cons {κ μ : Type} [LinearOrder κ] [LinearOrder μ] {v w : Value}
    {vs ws : List Value} {a b : κ} {k l : μ} (hsame : v.same w = decide (a = b))
    (hless : v.less w = .ok (decide (a < b))) (hrest : lessItems vs ws = .ok (decide (k < l))) :
    lessItems (v :: vs) (w :: ws) = .ok (decide (toLex (a, k) < toLex (b, l))) := by
  have hlex : decide (toLex (a, k) < toLex (b, l)) = decide (a < b ∨ a = b ∧ k < l) :=
    decide_eq_decide.mpr Prod.Lex.toLex_lt_toLex
  rw [lessItems, hsame, hless, hrest, hlex]
  by_cases h : a = b <;> simp [h]

theorem lessItems_singleton {v w : Value} {a b : String} (hsame : v.same w = decide (a = b))
    (hless : v.less w = .ok (decide (a < b))) : lessItems [v] [w] = .ok (decide (a < b)) := by
  rw [lessItems, hsame, hless]
  by_cases h : a = b <;> simp [h, lessItems]

end Value

namespace Report.Sarif

variable {π : Type} {tree : FileTree π} {root : Path}

/-! ## The order of messages -/

/-- What messages are sorted by: file, line, column, code and analyzer. -/
def place (m : AnalyzerMessage) : String ×ₗ Int ×ₗ Int ×ₗ String ×ₗ String :=
  let r := m.message.range
  toLex (r.file, toLex (r.startLine, toLex (r.startColumn,
    toLex (m.code.text?.getD "", m.name.text?.getD ""))))

theorem before_eq {m n : AnalyzerMessage} (hm : m.IsNamed) (hn : n.IsNamed) :
    before m n = .ok (decide (place m < place n)) := by
  obtain ⟨⟨c, hc⟩, a, ha⟩ := hm
  obtain ⟨⟨d, hd⟩, b, hb⟩ := hn
  simp only [before, place, hc, hd, ha, hb]
  refine Value.lessItems_cons (Value.same_texts ..) (Value.less_texts ..) ?_
  refine Value.lessItems_cons (Value.same_int ..) (Value.less_int ..) ?_
  refine Value.lessItems_cons (Value.same_int ..) (Value.less_int ..) ?_
  refine Value.lessItems_cons (Value.same_texts ..) (Value.less_texts ..) ?_
  exact Value.lessItems_singleton (Value.same_texts ..) (Value.less_texts ..)

/-- Messages in stable order of their places. -/
def inOrder (messages : List AnalyzerMessage) : List AnalyzerMessage :=
  messages.mergeSort fun m n => place m ≤ place n

theorem sortMessages_eq {messages : List AnalyzerMessage} (h : ∀ m ∈ messages, m.IsNamed) :
    sortMessages messages = .ok (inOrder messages) := by
  have hbefore : Value.ComparesBy before place messages :=
    fun m hm n hn => before_eq (h m hm) (h n hn)
  have hsort := Value.sortIfOrdered_eq messages hbefore
  rw [sortMessages, hsort, inOrder, Value.sortByKey_eq_mergeSort]

theorem mem_inOrder {messages : List AnalyzerMessage} {m : AnalyzerMessage} :
    m ∈ inOrder messages ↔ m ∈ messages :=
  (List.mergeSort_perm messages _).mem_iff

/-! ## Rules -/

/-- Rules that describe the first messages with their codes, in the order of these messages. -/
structure AreRulesOf (messages : List AnalyzerMessage) (rules : List Rule) : Prop where
  firsts : ∃ firsts : List (Nat × AnalyzerMessage), (firsts.map Prod.fst).Pairwise (· < ·) ∧
    (∀ f ∈ firsts, messages[f.1]? = some f.2 ∧ ∀ n ∈ messages.take f.1, n.code ≠ f.2.code) ∧
    rules = firsts.map fun f => Rule.ofMessage f.2
  complete : ∀ m ∈ messages, m.code ∈ rules.map Rule.id

namespace AreRulesOf

variable {messages : List AnalyzerMessage} {rules : List Rule}

theorem nil : AreRulesOf [] [] :=
  ⟨⟨[], List.Pairwise.nil, by simp, rfl⟩, fun _ hm => absurd hm List.not_mem_nil⟩

/-- The codes of rules are those of messages. -/
theorem mem_ids_iff (h : AreRulesOf messages rules) {code : Value} :
    code ∈ rules.map Rule.id ↔ ∃ m ∈ messages, m.code = code := by
  constructor
  · obtain ⟨firsts, -, hfirsts, rfl⟩ := h.firsts
    intro hcode
    obtain ⟨rule, hrule, rfl⟩ := List.mem_map.mp hcode
    obtain ⟨f, hf, rfl⟩ := List.mem_map.mp hrule
    exact ⟨f.2, List.mem_of_getElem? (hfirsts f hf).1, rfl⟩
  · rintro ⟨m, hm, rfl⟩
    exact h.complete m hm

/-- No two rules have the same code. -/
theorem nodup (h : AreRulesOf messages rules) : (rules.map Rule.id).Nodup := by
  obtain ⟨firsts, hplaces, hfirsts, rfl⟩ := h.firsts
  rw [List.map_map]
  refine List.pairwise_map.mpr ((List.pairwise_map.mp hplaces).imp_of_mem ?_)
  intro f g hf hg hlt
  -- the earlier of two messages is among those before the later one
  have hmem : f.2 ∈ messages.take g.1 := by
    refine List.mem_of_getElem? (i := f.1) ?_
    rw [List.getElem?_take_of_lt hlt]
    exact (hfirsts f hf).1
  exact (hfirsts g hg).2 f.2 hmem

theorem ruleIndex?_isSome_iff (h : AreRulesOf messages rules)
    (htexts : ∀ m ∈ messages, m.code.IsText) {code : Value} (hcode : code.IsText) :
    (ruleIndex? rules code).isSome ↔ code ∈ rules.map Rule.id := by
  obtain ⟨c, rfl⟩ := hcode
  rw [ruleIndex?, List.findIdx?_isSome, List.any_eq_true, List.mem_map]
  refine exists_congr fun rule => and_congr_right fun hrule => ?_
  obtain ⟨m, hm, hid⟩ := h.mem_ids_iff.mp (List.mem_map_of_mem hrule)
  obtain ⟨s, hs⟩ := htexts m hm
  rw [← hid, hs, Value.same_texts, decide_eq_true_iff, Value.text.injEq]

/-- A message adds a rule if it is the first with its code. -/
theorem addRule (h : AreRulesOf messages rules) (htexts : ∀ m ∈ messages, m.code.IsText)
    {m : AnalyzerMessage} (hcode : m.code.IsText) :
    AreRulesOf (messages ++ [m]) (addRule rules m) := by
  have hknown := h.ruleIndex?_isSome_iff htexts hcode
  obtain ⟨firsts, hplaces, hfirsts, hrules⟩ := h.firsts
  have hbefore : ∀ f ∈ firsts, f.1 < messages.length := fun f hf =>
    (List.getElem?_eq_some_iff.mp (hfirsts f hf).1).1
  have hkept : ∀ f ∈ firsts, (messages ++ [m])[f.1]? = some f.2 ∧
      ∀ n ∈ (messages ++ [m]).take f.1, n.code ≠ f.2.code := by
    intro f hf
    rw [List.getElem?_append_left (hbefore f hf), List.take_append_of_le_length (hbefore f hf).le]
    exact hfirsts f hf
  unfold Sarif.addRule
  split
  next hsome =>
    refine ⟨⟨firsts, hplaces, hkept, hrules⟩, fun n hn => ?_⟩
    rcases List.mem_append.mp hn with hn | hn
    · exact h.complete n hn
    · rw [List.mem_singleton.mp hn]
      exact hknown.mp hsome
  next hnone =>
    have hnew : ∀ n ∈ messages, n.code ≠ m.code := fun n hn heq =>
      hnone (hknown.mpr (heq ▸ h.complete n hn))
    refine ⟨⟨firsts ++ [(messages.length, m)], ?_, ?_, by simp [hrules]⟩, ?_⟩
    · rw [List.map_append, List.pairwise_append]
      refine ⟨hplaces, List.pairwise_singleton .., fun i hi j hj => ?_⟩
      obtain ⟨f, hf, rfl⟩ := List.mem_map.mp hi
      rw [List.mem_singleton.mp hj]
      exact hbefore f hf
    · intro f hf
      rcases List.mem_append.mp hf with hf | hf
      · exact hkept f hf
      · rw [List.mem_singleton.mp hf]
        simpa using hnew
    · intro n hn
      rw [List.map_append, List.mem_append]
      rcases List.mem_append.mp hn with hn | hn
      · exact .inl (h.complete n hn)
      · rw [List.mem_singleton.mp hn]
        exact .inr (List.mem_singleton_self _)

end AreRulesOf

theorem addRule_extends (rules : List Rule) (m : AnalyzerMessage) : rules <+: addRule rules m := by
  unfold addRule
  split
  · exact List.prefix_rfl
  · exact List.prefix_append ..

/-- The number of the rule for a message that has been added. -/
theorem getElem?_ruleIndex {messages : List AnalyzerMessage} {rules : List Rule}
    (h : AreRulesOf messages rules) (htexts : ∀ m ∈ messages, m.code.IsText) {m : AnalyzerMessage}
    (hm : m ∈ messages) :
    ∃ rule, rules[(ruleIndex? rules m.code).getD 0]? = some rule ∧ rule.id = m.code := by
  have hcode := htexts m hm
  obtain ⟨i, hi⟩ := Option.isSome_iff_exists.mp
    ((h.ruleIndex?_isSome_iff htexts hcode).mpr (h.complete m hm))
  obtain ⟨hlt, hsame, -⟩ := List.findIdx?_eq_some_iff_getElem.mp hi
  refine ⟨rules[i], by simp [hi, hlt], ?_⟩
  -- the rule that was found has an equal code, and equal texts are the same
  obtain ⟨n, hn, hid⟩ := h.mem_ids_iff.mp (List.mem_map_of_mem (List.getElem_mem hlt))
  obtain ⟨c, hc⟩ := hcode
  obtain ⟨d, hd⟩ := htexts n hn
  rw [← hid, hc, hd, Value.same_texts, decide_eq_true_iff] at hsame
  rw [← hid, hc, hd, hsame]

/-! ## Results -/

/-- The entry of a mapping under a name. -/
def entryOf? (name : String) : Value → Option Value
  | .mapping entries => Schema.lookup? name entries
  | _ => none

theorem lookup?_fields (name : String) (fields : List (String × Value)) :
    Schema.lookup? name (fields.map fun f => (Value.text f.1, f.2)) =
      (fields.find? fun f => f.1 = name).map Prod.snd := by
  rw [Schema.lookup?, List.find?_map, Option.map_map]
  simp only [Function.comp_def, Value.same_texts]

theorem entryOf?_mappingOf (name : String) (fields : List (String × Value)) :
    entryOf? name (mappingOf fields) = (fields.find? fun f => f.1 = name).map Prod.snd :=
  lookup?_fields name fields

/-- A result is written with its fixes if it has any. -/
theorem entryOf?_fixes (r : Result) :
    entryOf? "fixes" r.toValue =
      if r.fixes.isEmpty then none else some (.list (r.fixes.map Replacement.toValue)) := by
  rw [Result.toValue, entryOf?_mappingOf]
  cases r.fixes <;> simp

theorem entryOf?_fixes_eq_none_iff (r : Result) :
    entryOf? "fixes" r.toValue = none ↔ r.fixes = [] := by
  rw [entryOf?_fixes]
  simp

/-- A result that says what a message says. It is written with fixes if the message has any. -/
structure Result.Describes (tree : FileTree π) (root : Path) (m : AnalyzerMessage) (r : Result) :
    Prop where
  ruleId : r.ruleId = m.code
  level : r.level = levelOf m.severity
  text : r.text = m.message.text
  location : Sarif.locate tree root m.message.range = .ok r.location
  fixes : List.Forall₂ (fun f c => Sarif.locate tree root f.range = .ok c.location ∧
    c.text = f.after) m.message.fixes r.fixes
  written : entryOf? "fixes" r.toValue = none ↔ m.message.fixes = []

/-- The rule that a result points to. -/
def Result.Finds (rules : List Rule) (r : Result) : Prop :=
  ∃ rule, rules[r.ruleIndex]? = some rule ∧ rule.id = r.ruleId

theorem forall₂_of_mapM {α β : Type} {f : α → Except Failure β} {xs : List α} {ys : List β}
    (h : xs.mapM f = .ok ys) : List.Forall₂ (fun x y => f x = .ok y) xs ys := by
  induction xs generalizing ys with
  | nil =>
      cases h
      exact .nil
  | cons x xs ih =>
      rw [List.mapM_cons] at h
      obtain ⟨y, hy, h⟩ := Attempt.of_bind_eq_ok h
      obtain ⟨zs, hzs, h⟩ := Attempt.of_bind_eq_ok h
      cases h
      exact .cons hy (ih hzs)

/-- A location has the region of its range in the file that the range names. -/
theorem locate_eq_ok_iff {r : Range} {l : Location} :
    Sarif.locate tree root r = .ok l ↔
      artifactUri tree root r.file = .ok l.uri ∧ l.region = Region.ofRange r := by
  constructor
  · intro h
    obtain ⟨uri, huri, h⟩ := Attempt.of_bind_eq_ok h
    cases h
    exact ⟨huri, rfl⟩
  · rintro ⟨huri, hregion⟩
    rw [Sarif.locate, huri, ← hregion]
    rfl

theorem Result.describes_of_ok {rules : List Rule} {m : AnalyzerMessage} {r : Result}
    (h : Result.ofMessage tree root rules m = .ok r) :
    r.Describes tree root m ∧ r.ruleIndex = (ruleIndex? rules m.code).getD 0 := by
  obtain ⟨location, hlocation, h⟩ := Attempt.of_bind_eq_ok h
  obtain ⟨fixes, hfixes, h⟩ := Attempt.of_bind_eq_ok h
  cases h
  have hpairs := forall₂_of_mapM hfixes
  refine ⟨⟨rfl, rfl, rfl, hlocation, hpairs.imp fun f c hc => ?_, ?_⟩, rfl⟩
  · obtain ⟨place, hplace, hc⟩ := Attempt.of_bind_eq_ok hc
    cases hc
    exact ⟨hplace, rfl⟩
  · rw [entryOf?_fixes_eq_none_iff, ← List.length_eq_zero_iff, ← List.length_eq_zero_iff,
      hpairs.length_eq]

theorem locate_isOk_iff {r : Range} :
    (∃ l, Sarif.locate tree root r = .ok l) ↔ ∃ uri, artifactUri tree root r.file = .ok uri :=
  ⟨fun ⟨l, hl⟩ => ⟨l.uri, (locate_eq_ok_iff.mp hl).1⟩,
    fun ⟨uri, huri⟩ => ⟨⟨uri, _⟩, locate_eq_ok_iff.mpr ⟨huri, rfl⟩⟩⟩

/-- A message has a result if all files that it speaks of can be named. -/
theorem Result.ofMessage_isOk_iff (rules : List Rule) (m : AnalyzerMessage) :
    (∃ r, Result.ofMessage tree root rules m = .ok r) ↔
      ∀ file ∈ m.files, ∃ uri, artifactUri tree root file = .ok uri := by
  have hfix : ∀ f : Fix, (∃ uri, artifactUri tree root f.range.file = .ok uri) ↔
      ∃ c, (Sarif.locate tree root f.range >>= fun location =>
        pure ({ location, text := f.after } : Replacement)) = .ok c := by
    intro f
    simp only [← locate_isOk_iff, Attempt.exists_bind_eq_ok_iff, Attempt.exists_pure_eq_ok,
      and_true]
  rw [AnalyzerMessage.files, List.forall_mem_cons, ← locate_isOk_iff]
  simp only [List.forall_mem_map, hfix]
  rw [← Attempt.mapM_ok_iff, Result.ofMessage]
  simp only [Attempt.exists_bind_eq_ok_iff, Attempt.exists_pure_eq_ok, and_true, exists_and_right]

theorem requireKey_text {v : Value} (h : v.IsText) : v.requireKey = .ok () := by
  obtain ⟨s, rfl⟩ := h
  rfl

/-- Collecting goes on from the rules of earlier messages. -/
theorem collect_ok {done rest : List AnalyzerMessage} {rules more : List Rule}
    {results : List Result} (htexts : ∀ m ∈ done ++ rest, m.code.IsText)
    (h : AreRulesOf done rules) (hcollect : collect tree root rules rest = .ok (more, results)) :
    AreRulesOf (done ++ rest) more ∧ rules <+: more ∧
      List.Forall₂ (fun m r => r.Describes tree root m ∧ r.Finds more) rest results := by
  induction rest generalizing done rules results with
  | nil =>
      cases hcollect
      exact ⟨by simpa using h, List.prefix_rfl, .nil⟩
  | cons m rest ih =>
      obtain ⟨_, -, hcollect⟩ := Attempt.of_bind_eq_ok hcollect
      obtain ⟨result, hresult, hcollect⟩ := Attempt.of_bind_eq_ok hcollect
      obtain ⟨⟨rules', results'⟩, hrest, hcollect⟩ := Attempt.of_bind_eq_ok hcollect
      cases hcollect
      have hm : m.code.IsText := htexts m (by simp)
      have hdone : ∀ n ∈ done, n.code.IsText := fun n hn => htexts n (by simp [hn])
      have hnext := h.addRule hdone hm
      have htail : ∀ n ∈ (done ++ [m]) ++ rest, n.code.IsText := by simpa using htexts
      obtain ⟨hrules, hprefix, hresults⟩ := ih htail hnext hrest
      obtain ⟨hdescribes, hnumber⟩ := Result.describes_of_ok hresult
      refine ⟨by simpa using hrules, (addRule_extends rules m).trans hprefix,
        .cons ⟨hdescribes, ?_⟩ hresults⟩
      -- a rule keeps its number while more of them are added
      obtain ⟨rule, hrule, hid⟩ := getElem?_ruleIndex hnext (m := m)
        (fun n hn => htexts n (by simp at hn ⊢; tauto)) (by simp)
      refine ⟨rule, ?_, by rw [hid, hdescribes.ruleId]⟩
      rw [hnumber]
      obtain ⟨added, rfl⟩ := hprefix
      rw [List.getElem?_append_left (List.getElem?_eq_some_iff.mp hrule).1]
      exact hrule

theorem collect_isOk_iff (rules : List Rule) {messages : List AnalyzerMessage}
    (htexts : ∀ m ∈ messages, m.code.IsText) :
    (∃ out, collect tree root rules messages = .ok out) ↔
      ∀ m ∈ messages, ∀ file ∈ m.files, ∃ uri, artifactUri tree root file = .ok uri := by
  induction messages generalizing rules with
  | nil => exact ⟨fun _ m hm => absurd hm List.not_mem_nil, fun _ => ⟨_, rfl⟩⟩
  | cons m rest ih =>
      rw [List.forall_mem_cons] at htexts ⊢
      rw [← ih (addRule rules m) htexts.2, ← Result.ofMessage_isOk_iff (addRule rules m) m, collect,
        requireKey_text htexts.1, Attempt.ok_bind]
      simp only [Attempt.exists_bind_eq_ok_iff, Attempt.exists_pure_eq_ok, and_true,
        exists_and_right]

/-! ## The whole report -/

/-- A report that says what messages say. Its results describe the messages in stable order of their
places, its rules the first of them with each code. -/
structure Log.Reports (tree : FileTree π) (messages : List AnalyzerMessage) (l : Log) : Prop where
  results : List.Forall₂ (fun m r => r.Describes tree l.root m ∧ r.Finds l.rules)
    (inOrder messages) l.results
  distinct : (l.rules.map Rule.id).Nodup
  codes : ∀ code, code ∈ l.rules.map Rule.id ↔ ∃ m ∈ messages, m.code = code
  rules : AreRulesOf (inOrder messages) l.rules

theorem inOrder_texts {messages : List AnalyzerMessage} (hnamed : ∀ m ∈ messages, m.IsNamed) :
    ∀ m ∈ inOrder messages, m.code.IsText :=
  fun m hm => (hnamed m (mem_inOrder.mp hm)).code

theorem Log.reports_of_ok {root : Option String} {messages : List AnalyzerMessage} {log : Log}
    (hnamed : ∀ m ∈ messages, m.IsNamed) (hlog : Log.ofMessages tree root messages = .ok log) :
    codeRoot tree root = .ok log.root ∧ log.Reports tree messages := by
  obtain ⟨place, hplace, hlog⟩ := Attempt.of_bind_eq_ok hlog
  rw [sortMessages_eq hnamed, Attempt.ok_bind] at hlog
  obtain ⟨⟨rules, results⟩, hcollect, hlog⟩ := Attempt.of_bind_eq_ok hlog
  cases hlog
  have hwhole : ∀ m ∈ [] ++ inOrder messages, m.code.IsText := inOrder_texts hnamed
  obtain ⟨hrules, -, hresults⟩ := collect_ok hwhole AreRulesOf.nil hcollect
  rw [List.nil_append] at hrules
  refine ⟨hplace, hresults, hrules.nodup, fun code => ?_, hrules⟩
  simp only [hrules.mem_ids_iff, mem_inOrder]

theorem Log.ofMessages_isOk_iff {root : Option String} {messages : List AnalyzerMessage}
    (hnamed : ∀ m ∈ messages, m.IsNamed) :
    (∃ log, Log.ofMessages tree root messages = .ok log) ↔
      ∃ place, codeRoot tree root = .ok place ∧
        ∀ m ∈ messages, ∀ file ∈ m.files, ∃ uri, artifactUri tree place file = .ok uri := by
  have hcollect : ∀ place, (∃ out, collect tree place [] (inOrder messages) = .ok out) ↔
      ∀ m ∈ messages, ∀ file ∈ m.files, ∃ uri, artifactUri tree place file = .ok uri := by
    intro place
    simp only [collect_isOk_iff [] (inOrder_texts hnamed), mem_inOrder]
  simp only [← hcollect, Log.ofMessages, sortMessages_eq hnamed, Attempt.ok_bind,
    Attempt.exists_bind_eq_ok_iff, Attempt.exists_pure_eq_ok, and_true]

/-- Every report says what its messages say, and there is one if the code root and all files that
messages speak of can be named. -/
theorem Log.ofMessages_reports (tree : FileTree π) (root : Option String)
    (messages : List AnalyzerMessage) (hnamed : ∀ m ∈ messages, m.IsNamed) :
    (∀ log, Log.ofMessages tree root messages = .ok log →
      codeRoot tree root = .ok log.root ∧ log.Reports tree messages) ∧
    ((∃ log, Log.ofMessages tree root messages = .ok log) ↔
      ∃ place, codeRoot tree root = .ok place ∧
        ∀ m ∈ messages, ∀ file ∈ m.files, ∃ uri, artifactUri tree place file = .ok uri) :=
  ⟨fun _ hlog => Log.reports_of_ok hnamed hlog, Log.ofMessages_isOk_iff hnamed⟩

/-- Two messages with one code in a file that is named by a relative path. -/
theorem Log.ofMessages_reports_two :
    let remark (line : Int) : AnalyzerMessage :=
      { message := { type := .text "t", text := .text "m", code := .text "C1", severity := .error
                     range := ⟨"a.py", line, 0, line, 1⟩ }
        name := .text "A" }
    let messages := [remark 2, remark 1]
    (∀ m ∈ messages, m.IsNamed) ∧
      ∃ log, Log.ofMessages ({} : FileTree Unit) none messages = .ok log ∧
        log.Reports ({} : FileTree Unit) messages := by
  intro remark messages
  have hnamed : ∀ m ∈ messages, m.IsNamed := by
    intro m hm
    rcases List.mem_pair.mp hm with rfl | rfl <;> exact ⟨⟨_, rfl⟩, _, rfl⟩
  have huris : ∀ m ∈ messages, ∀ file ∈ m.files,
      ∃ uri, artifactUri ({} : FileTree Unit) { root := .slash } file = .ok uri := by
    have huri : artifactUri ({} : FileTree Unit) { root := .slash } "a.py" = .ok "a.py" := by
      decide +kernel
    intro m hm file hfile
    have hfile : file = "a.py" := by
      rcases List.mem_pair.mp hm with rfl | rfl <;> exact List.mem_singleton.mp hfile
    exact ⟨"a.py", hfile ▸ huri⟩
  obtain ⟨hreports, hexists⟩ := Log.ofMessages_reports ({} : FileTree Unit) none messages hnamed
  obtain ⟨log, hlog⟩ := hexists.mpr ⟨_, rfl, huris⟩
  exact ⟨hnamed, log, hlog, (hreports log hlog).2⟩

/-! ## Messages in another order -/

/-- The same messages in another order; those with the same place come in the same order. -/
structure Rearranged (messages others : List AnalyzerMessage) : Prop where
  perm : messages.Perm others
  ties : ∀ key, (others.filter fun m => place m = key) = messages.filter fun m => place m = key

namespace Rearranged

variable {messages others : List AnalyzerMessage}

/-- Neighbours with different places can change places. -/
theorem swap {m n : AnalyzerMessage} (h : place m ≠ place n) (front back : List AnalyzerMessage) :
    Rearranged (front ++ m :: n :: back) (front ++ n :: m :: back) := by
  refine ⟨.append_left front (.swap n m back), fun key => ?_⟩
  rw [List.filter_append, List.filter_append]
  by_cases hm : place m = key
  · have hn : place n ≠ key := hm ▸ h.symm
    simp [hm, hn]
  · simp [List.filter_cons, hm]

theorem inOrder_eq (h : Rearranged messages others) : inOrder others = inOrder messages := by
  have hsort : ∀ ms, inOrder ms = Value.sortByKey place ms :=
    fun ms => (Value.sortByKey_eq_mergeSort place ms).symm
  rw [hsort, hsort]
  refine (Value.sortByKey_ascending place others).eq_of_filter
    (Value.sortByKey_ascending place messages) fun key => ?_
  rw [Value.filter_sortByKey, Value.filter_sortByKey, h.ties]

end Rearranged

/-- A report, and the file that it is written to, do not hang on the order of the messages. -/
theorem Log.ofMessages_rearranged (tree : FileTree π) (root : Option String)
    (messages others : List AnalyzerMessage) (hnamed : ∀ m ∈ messages, m.IsNamed)
    (h : Rearranged messages others) :
    Log.ofMessages tree root others = Log.ofMessages tree root messages ∧
      ∀ report, writeIn tree report root others = writeIn tree report root messages := by
  have hothers : ∀ m ∈ others, m.IsNamed := fun m hm => hnamed m (h.perm.mem_iff.mpr hm)
  have hsorted : sortMessages others = sortMessages messages := by
    rw [sortMessages_eq hothers, sortMessages_eq hnamed, h.inOrder_eq]
  have hlog : Log.ofMessages tree root others = Log.ofMessages tree root messages := by
    rw [Log.ofMessages, Log.ofMessages, hsorted]
  refine ⟨hlog, fun report => ?_⟩
  rw [writeIn, writeIn, checkedValue, checkedValue, hlog]

/-- A message on an earlier line arrives last or second; the other two have one place and stay in
order. -/
theorem Log.ofMessages_rearranged_three :
    let remark (line : Int) (text : String) : AnalyzerMessage :=
      { message := { type := .text "t", text := .text text, code := .text "C1", severity := .error
                     range := ⟨"a.py", line, 0, line, 1⟩ }
        name := .text "A" }
    let messages := [remark 2 "m", remark 2 "n", remark 1 "m"]
    let others := [remark 2 "m", remark 1 "m", remark 2 "n"]
    (∀ m ∈ messages, m.IsNamed) ∧ Rearranged messages others ∧
      Log.ofMessages ({} : FileTree Unit) none others =
        Log.ofMessages ({} : FileTree Unit) none messages := by
  intro remark messages others
  have hnamed : ∀ m ∈ messages, m.IsNamed := by
    simp only [messages, List.forall_mem_cons]
    exact ⟨⟨⟨_, rfl⟩, _, rfl⟩, ⟨⟨_, rfl⟩, _, rfl⟩, ⟨⟨_, rfl⟩, _, rfl⟩, List.forall_mem_nil _⟩
  have hplace : place (remark 2 "n") ≠ place (remark 1 "m") := by decide
  have hswap : Rearranged messages others := .swap hplace [remark 2 "m"] []
  exact ⟨hnamed, hswap,
    (Log.ofMessages_rearranged ({} : FileTree Unit) none messages others hnamed hswap).1⟩

end Report.Sarif

end Assay
