import Assay.Plugin.Runner
import Assay.Proofs.Sorting

/-! # Running analyzers in any order

Analyzers with distinct names run as if one were alone: neither the order in which they are given
nor the one in which they finish shows in the results. The messages of a run are those of its
analyzers one by one, in the order of their names, and an analyzer gives all its messages or none.
-/

namespace Assay.Plugin

open Check Value

/-! ## What one analyzer gives -/

theorem Returned.messagesOf_eq_ok_iff (analyzer : Value) (items : List Item) (ms : List Message) :
    Returned.messagesOf analyzer items = .ok ms ↔ items = ms.map .message := by
  induction items generalizing ms with
  | nil => cases ms <;> simp [Returned.messagesOf]
  | cons item items ih =>
      cases item with
      | value v => cases ms <;> simp [Returned.messagesOf]
      | message m =>
          cases ms with
          | nil =>
              cases htail : Returned.messagesOf analyzer items <;>
                simp [Returned.messagesOf, htail, bind, Except.bind, pure, Except.pure]
          | cons n ms =>
              have htail := ih ms
              cases hrest : Returned.messagesOf analyzer items with
              | error f =>
                  rw [hrest] at htail
                  simp_all [Returned.messagesOf, bind, Except.bind]
              | ok rest =>
                  rw [hrest] at htail
                  simp_all [Returned.messagesOf, bind, Except.bind, pure, Except.pure]

/-- Only a whole list of messages counts: nothing, a value without items, a fault on the way and an
item that is no message all make the analyzer fail. -/
theorem Returned.messages_eq_ok_iff (analyzer : Value) (r : Returned) (ms : List Message) :
    r.messages analyzer = .ok ms ↔ r = .many (ms.map .message) none := by
  cases r with
  | nothing => simp [Returned.messages]
  | single type => simp [Returned.messages]
  | many items fault =>
      cases fault with
      | none => simp [Returned.messages, Returned.messagesOf_eq_ok_iff]
      | some f => simp [Returned.messages]

namespace Descriptor

theorem execute_eq_ok_iff (d : Descriptor) (c : Context) (ms : List Message) :
    d.execute c = .ok ms ↔ d.call c = .ok (.many (ms.map .message) none) := by
  unfold execute
  cases hcall : d.call c with
  | error f => simp [bind, Except.bind]
  | ok r => simp [bind, Except.bind, Returned.messages_eq_ok_iff]

/-- The result of an analyzer for a context. -/
def verdict (d : Descriptor) (c : Context) : AnalysisResult :=
  { name := d.name, outcome := d.execute c }

theorem resultOf_value (d : Descriptor) (c : Context) (outcome : Except Failure (List Message)) :
    (d.resultOf c outcome).value = { name := d.name, outcome } := by
  cases outcome <;> rfl

theorem resultOf_log_level (d : Descriptor) (c : Context)
    (outcome : Except Failure (List Message)) (entry : LogEntry)
    (hentry : entry ∈ (d.resultOf c outcome).log) : entry.level = .debug := by
  cases outcome with
  | ok ms => simp [resultOf] at hentry
  | error f =>
      simp only [resultOf, Logged.note, Logged.log_bind, Logged.log_pure, List.append_nil,
        List.mem_singleton] at hentry
      rw [hentry]

/-- What an analyzer adds to the messages of a run: all its messages, or none if it fails. -/
def contribution (d : Descriptor) (c : Context) : List AnalyzerMessage :=
  match d.execute c with
  | .ok ms => ms.map d.tag
  | .error _ => []

/-- The log entry for an analyzer that failed. -/
def failureRecord (d : Descriptor) (c : Context) (f : Failure) : LogEntry :=
  { level := .error, failure := some f
    text := "Analyzer " ++ d.name.shown ++ " raised an exception on " ++ c.file ++ "; skipped" }

/-- What an analyzer adds to the errors in the log of a run. -/
def complaint (d : Descriptor) (c : Context) : List LogEntry :=
  match d.execute c with
  | .ok _ => []
  | .error f => [d.failureRecord c f]

end Descriptor

/-! ## Futures -/

/-- Futures that hold nothing but the outcomes of their own analyzers. -/
def Settled (c : Context) : List Descriptor → List Future → Prop :=
  List.Forall₂ fun d future => future.getD (d.execute c) = d.execute c

theorem settled_submitted (c : Context) (ds : List Descriptor) :
    Settled c ds (ds.map fun _ => none) := by
  induction ds with
  | nil => exact .nil
  | cons d ds ih => exact .cons rfl ih

theorem Settled.set {c : Context} {ds : List Descriptor} {futures : List Future}
    (h : Settled c ds futures) (place : Nat) {d : Descriptor} (hd : ds[place]? = some d) :
    Settled c ds (futures.set place (some (d.execute c))) := by
  induction h generalizing place with
  | nil => simp at hd
  | cons hhead htail ih =>
      cases place with
      | zero =>
          simp only [List.getElem?_cons_zero, Option.some.injEq] at hd
          subst hd
          exact .cons rfl htail
      | succ place => exact .cons hhead (ih place hd)

/-- An analyzer that finishes touches its own future only. -/
theorem Settled.finish {c : Context} {ds : List Descriptor} {futures : List Future}
    (h : Settled c ds futures) (place : Nat) : Settled c ds (finish ds c futures place) := by
  unfold Plugin.finish
  split
  next d hd => exact h.set place hd
  next => exact h

theorem fanOut_settled (ds : List Descriptor) (c : Context) (completion : List Nat) :
    Settled c ds (fanOut ds c completion) := by
  have hrun : ∀ futures, Settled c ds futures →
      Settled c ds (completion.foldl (finish ds c) futures) := by
    induction completion with
    | nil => exact fun futures h => h
    | cons place rest ih => exact fun futures h => ih _ (h.finish place)
  exact hrun _ (settled_submitted c ds)

theorem resultsOf_settled {c : Context} {ds : List Descriptor} {futures : List Future}
    (h : Settled c ds futures) :
    (resultsOf c (ds.zip futures)).value = ds.map (·.verdict c) ∧
      (resultsOf c (ds.zip futures)).log =
        ds.flatMap fun d => (d.resultOf c (d.execute c)).log := by
  induction h with
  | nil => exact ⟨rfl, rfl⟩
  | @cons d future ds futures hhead htail ih =>
      have hvalue : (d.resultOf c (d.execute c)).value = d.verdict c := d.resultOf_value c _
      simp [resultsOf, hhead, hvalue, ih.1, ih.2]

/-! ## Names -/

/-- Analyzers whose names are texts, no two of them equal. -/
structure DistinctlyNamed (ds : List Descriptor) : Prop where
  texts : ∀ d ∈ ds, ∃ s, d.name = .text s
  distinct : (ds.map (·.name)).Nodup

/-- The name of an analyzer as a text. -/
def Descriptor.label (d : Descriptor) : String := d.name.text?.getD ""

/-- Analyzers in the order of their names. -/
abbrev inOrder (ds : List Descriptor) : List Descriptor := sortByKey Descriptor.label ds

theorem Descriptor.name_eq_label {d : Descriptor} (h : ∃ s, d.name = .text s) :
    d.name = .text d.label := by
  obtain ⟨s, hs⟩ := h
  simp [label, hs]

/-- Analyzers with textual names can be put in order. -/
theorem sortByName_texts {ds : List Descriptor} (h : ∀ d ∈ ds, ∃ s, d.name = .text s) :
    sortByName ds = .ok (inOrder ds) := by
  have hcompares : ComparesBy (fun d e : Descriptor => Value.less d.name e.name)
      Descriptor.label ds := by
    intro d hd e he
    change Value.less d.name e.name = _
    rw [Descriptor.name_eq_label (h d hd), Descriptor.name_eq_label (h e he), less_texts]
  rw [sortByName, sortIfOrdered_eq ds hcompares]
  rfl

theorem requireKeys_texts {ds : List Descriptor} (h : ∀ d ∈ ds, ∃ s, d.name = .text s) :
    ds.forM (fun d => d.name.requireKey) = .ok () := by
  induction ds with
  | nil => rfl
  | cons d ds ih =>
      rw [List.forall_mem_cons] at h
      obtain ⟨⟨s, hs⟩, hrest⟩ := h
      change (d.name.requireKey >>= fun _ => ds.forM fun d => d.name.requireKey) = .ok ()
      rw [hs, ih hrest]
      rfl

namespace DistinctlyNamed

variable {ds es : List Descriptor}

theorem name_eq (h : DistinctlyNamed ds) {d : Descriptor} (hd : d ∈ ds) :
    d.name = .text d.label :=
  Descriptor.name_eq_label (h.texts d hd)

theorem labels (h : DistinctlyNamed ds) : (ds.map Descriptor.label).Nodup := by
  refine List.Nodup.map_on ?_ h.distinct.of_map
  intro d hd e he heq
  refine List.inj_on_of_nodup_map h.distinct hd he ?_
  rw [h.name_eq hd, h.name_eq he, heq]

theorem perm (h : DistinctlyNamed ds) (hperm : es.Perm ds) : DistinctlyNamed es :=
  ⟨fun d hd => h.texts d (hperm.mem_iff.mp hd), (hperm.map _).nodup_iff.mpr h.distinct⟩

theorem singleton (h : DistinctlyNamed ds) {d : Descriptor} (hd : d ∈ ds) :
    DistinctlyNamed [d] :=
  ⟨fun e he => h.texts e (List.mem_singleton.mp he ▸ hd), List.nodup_singleton _⟩

theorem inOrder_eq (h : DistinctlyNamed ds) (hperm : es.Perm ds) : inOrder es = inOrder ds :=
  sortByKey_eq_of_perm _ hperm (h.perm hperm).labels

theorem sortByName_eq (h : DistinctlyNamed ds) : sortByName ds = .ok (inOrder ds) :=
  sortByName_texts h.texts

theorem foldl_putByName (h : DistinctlyNamed (ds ++ es)) :
    es.foldl (fun done d => putByName d done) (ds.map fun d => (d.name, d)) =
      (ds ++ es).map fun d => (d.name, d) := by
  induction es generalizing ds with
  | nil => simp
  | cons e es ih =>
      have hfresh : ∀ d ∈ ds, d.name.same e.name = false := by
        intro d hd
        have hne : d.name ≠ e.name := by
          have hdistinct := h.distinct
          rw [List.map_append, List.nodup_append] at hdistinct
          exact hdistinct.2.2 _ (List.mem_map_of_mem hd) _ (by simp)
        rw [h.name_eq (List.mem_append_left _ hd), h.name_eq (d := e) (by simp)] at hne ⊢
        simpa [same_text] using hne
      have hput : putByName e (ds.map fun d => (d.name, d)) =
          (ds ++ [e]).map fun d => (d.name, d) := by
        clear ih h
        induction ds with
        | nil => rfl
        | cons d ds ih =>
            have htail := ih fun x hx => hfresh x (List.mem_cons_of_mem d hx)
            simp [putByName, hfresh d List.mem_cons_self, htail]
      rw [List.foldl_cons, hput, ih]
      · simp
      · simpa using h

/-- Distinct names fill the dictionary without replacing each other. -/
theorem byName_eq (h : DistinctlyNamed ds) : byName ds = .ok ds := by
  have hkeys := requireKeys_texts h.texts
  have hfold : ds.foldl (fun done d => putByName d done) [] = ds.map fun d => (d.name, d) :=
    @foldl_putByName [] ds h
  simp only [byName, hkeys, hfold, bind, Except.bind, pure, Except.pure, List.map_map]
  simp [Function.comp_def]

end DistinctlyNamed

/-! ## Whole runs -/

/-- The errors in a log. -/
def errorsOf (log : List LogEntry) : List LogEntry := log.filter fun e => e.level = .error

theorem errorsOf_append (log more : List LogEntry) :
    errorsOf (log ++ more) = errorsOf log ++ errorsOf more :=
  List.filter_append ..

/-- The messages of a result, none if the analyzer failed. -/
def okMessages (r : AnalysisResult) : List Message :=
  match r.outcome with
  | .ok ms => ms
  | .error _ => []

theorem Descriptor.contribution_message (d : Descriptor) (c : Context) :
    (d.contribution c).map (·.message) = okMessages (d.verdict c) := by
  unfold Descriptor.contribution okMessages Descriptor.verdict
  cases d.execute c with
  | error f => rfl
  | ok ms => simp [Descriptor.tag, Function.comp_def]

theorem checkWorkers_natural (workers : Option Nat) :
    checkWorkers (workers.map Int.ofNat) = .ok () := by
  cases workers with
  | none => rfl
  | some n => simp [checkWorkers]

theorem runOrdered_outcome (ordered : List Descriptor) (c : Context) (workers : Option Nat)
    (completion : List Nat) :
    Attempt.outcome (runOrdered ordered c (workers.map Int.ofNat) completion) =
      .ok (ordered.map (·.verdict c)) := by
  have hresults := (resultsOf_settled (fanOut_settled ordered c completion)).1
  cases ordered with
  | nil => rfl
  | cons d ds =>
      simp [runOrdered, checkWorkers_natural, hresults]

theorem runOrdered_log (ordered : List Descriptor) (c : Context) (workers : Option Nat)
    (completion : List Nat) :
    Attempt.log (runOrdered ordered c (workers.map Int.ofNat) completion) =
      ordered.flatMap fun d => (d.resultOf c (d.execute c)).log := by
  have hresults := (resultsOf_settled (fanOut_settled ordered c completion)).2
  cases ordered with
  | nil => rfl
  | cons d ds =>
      simp [runOrdered, Attempt.log_bind, checkWorkers_natural, hresults]

theorem messagesOfAll_verdicts (c : Context) (ds : List Descriptor) :
    (messagesOfAll c (ds.zip (ds.map (·.verdict c)))).value = ds.flatMap (·.contribution c) ∧
      (messagesOfAll c (ds.zip (ds.map (·.verdict c)))).log = ds.flatMap (·.complaint c) := by
  induction ds with
  | nil => exact ⟨rfl, rfl⟩
  | cons d ds ih =>
      have hvalue : (messagesOf c d (d.verdict c)).value = d.contribution c := by
        unfold messagesOf Descriptor.contribution Descriptor.verdict
        cases d.execute c <;> rfl
      have hlog : (messagesOf c d (d.verdict c)).log = d.complaint c := by
        unfold messagesOf Descriptor.complaint Descriptor.verdict
        cases d.execute c with
        | ok ms => rfl
        | error f =>
            simp [Logged.note, Descriptor.failureRecord, toString, String.append_assoc]
      simp [messagesOfAll, hvalue, hlog, ih.1, ih.2]

namespace DistinctlyNamed

variable {ds : List Descriptor}

theorem runSafely_eq (h : DistinctlyNamed ds) (c : Context) (workers : Option Nat)
    (completion : List Nat) :
    runSafely ds c (workers.map Int.ofNat) completion =
      runOrdered (inOrder ds) c (workers.map Int.ofNat) completion := by
  apply Attempt.ext
  · simp [runSafely, h.sortByName_eq]
  · simp [runSafely, h.sortByName_eq, Attempt.log_bind]

theorem runAll_eq (h : DistinctlyNamed ds) (c : Context) (workers : Option Nat)
    (completion : List Nat) :
    Attempt.outcome (runAll ds c (workers.map Int.ofNat) completion) =
        .ok ((inOrder ds).flatMap (·.contribution c)) ∧
      Attempt.log (runAll ds c (workers.map Int.ofNat) completion) =
        (inOrder ds).flatMap (fun d => (d.resultOf c (d.execute c)).log) ++
          (inOrder ds).flatMap (·.complaint c) := by
  have hordered : DistinctlyNamed (inOrder ds) := h.perm (sortByKey_perm _ ds)
  have hkept : (sortByName ds >>= byName) = .ok (inOrder ds) := by
    rw [h.sortByName_eq]
    exact hordered.byName_eq
  -- the second sort finds the analyzers in order already
  have hagain : sortByName (inOrder ds) = .ok (inOrder ds) := by
    rw [hordered.sortByName_eq, inOrder, sortByKey_of_ascending _ (sortByKey_ascending _ ds)]
  have hmessages := messagesOfAll_verdicts c (inOrder ds)
  constructor
  · simp [runAll, hkept, hagain, runOrdered_outcome, hmessages.1]
  · simp [runAll, hkept, hagain, Attempt.log_bind, runOrdered_outcome, runOrdered_log, hmessages.2]

theorem errorsOf_runAll (h : DistinctlyNamed ds) (c : Context) (workers : Option Nat)
    (completion : List Nat) :
    errorsOf (Attempt.log (runAll ds c (workers.map Int.ofNat) completion)) =
      (inOrder ds).flatMap (·.complaint c) := by
  rw [(h.runAll_eq c workers completion).2, errorsOf_append]
  have hquiet : errorsOf ((inOrder ds).flatMap fun d => (d.resultOf c (d.execute c)).log) = [] := by
    refine List.filter_eq_nil_iff.mpr ?_
    intro entry hentry
    obtain ⟨d, _, hlog⟩ := List.mem_flatMap.mp hentry
    rw [d.resultOf_log_level c _ entry hlog]
    decide
  have hloud : errorsOf ((inOrder ds).flatMap (·.complaint c)) =
      (inOrder ds).flatMap (·.complaint c) := by
    refine List.filter_eq_self.mpr ?_
    intro entry hentry
    obtain ⟨d, _, hlog⟩ := List.mem_flatMap.mp hentry
    unfold Descriptor.complaint at hlog
    split at hlog
    · simp at hlog
    · rw [List.mem_singleton.mp hlog]
      rfl
  rw [hquiet, hloud, List.nil_append]

end DistinctlyNamed

/-- What running analyzers on a context amounts to, when `ordered` are the analyzers in the order of
their names. Everywhere `given` is any arrangement of them, `completion` the order in which they
finish, and the number of workers is left open or natural. -/
structure OrderlyRun (ds : List Descriptor) (c : Context) (ordered : List Descriptor) : Prop where
  /-- Every analyzer has one place. -/
  perm : ordered.Perm ds
  /-- Names ascend strictly, character by character. -/
  ascending : ordered.Pairwise fun d e =>
    ∃ s t : String, d.name = .text s ∧ e.name = .text t ∧ s < t
  /-- There is one result for each analyzer, in this order. -/
  results : ∀ (given : List Descriptor) (workers : Option Nat) (completion : List Nat),
    given.Perm ds → Attempt.outcome (runSafely given c (workers.map Int.ofNat) completion) =
      .ok (ordered.map (·.verdict c))
  /-- The messages are those of the analyzers one by one. -/
  messages : ∀ (given : List Descriptor) (workers : Option Nat) (completion : List Nat),
    given.Perm ds → Attempt.outcome (runAll given c (workers.map Int.ofNat) completion) =
      .ok (ordered.flatMap (·.contribution c))
  /-- An analyzer gives in company what it gives alone. -/
  alone : ∀ d ∈ ds, Attempt.outcome (runAll [d] c) = .ok (d.contribution c) ∧
    errorsOf (Attempt.log (runAll [d] c)) = d.complaint c
  /-- The messages without their analyzers are those of the results that did not fail. -/
  flattened : (ordered.flatMap (·.contribution c)).map (·.message) =
    (ordered.map (·.verdict c)).flatMap okMessages
  /-- The errors in the log are the complaints about the analyzers one by one. -/
  errors : ∀ (given : List Descriptor) (workers : Option Nat) (completion : List Nat),
    given.Perm ds → errorsOf (Attempt.log (runAll given c (workers.map Int.ofNat) completion)) =
      ordered.flatMap (·.complaint c)
  /-- An analyzer that returns messages and nothing else gives all of them, with its own name and
  descriptions. Any other one gives none, and a single log entry names it. -/
  allOrNothing : ∀ d ∈ ds,
    (∃ ms : List Message, d.call c = .ok (.many (ms.map .message) none) ∧ d.complaint c = [] ∧
      d.contribution c = ms.map fun m =>
        { message := m, name := d.name, shortDescription := d.shortDescription,
          helpUri := d.helpUri }) ∨
    ((∀ ms : List Message, d.call c ≠ .ok (.many (ms.map .message) none)) ∧
      d.contribution c = [] ∧
      ∃ f, d.execute c = .error f ∧ d.complaint c = [d.failureRecord c f])

theorem Descriptor.all_or_nothing (d : Descriptor) (c : Context) :
    (∃ ms : List Message, d.call c = .ok (.many (ms.map .message) none) ∧ d.complaint c = [] ∧
      d.contribution c = ms.map d.tag) ∨
    ((∀ ms : List Message, d.call c ≠ .ok (.many (ms.map .message) none)) ∧
      d.contribution c = [] ∧
      ∃ f, d.execute c = .error f ∧ d.complaint c = [d.failureRecord c f]) := by
  unfold Descriptor.complaint Descriptor.contribution
  cases hexecute : d.execute c with
  | ok ms => exact .inl ⟨ms, (d.execute_eq_ok_iff c ms).mp hexecute, rfl, rfl⟩
  | error f =>
      refine .inr ⟨fun ms hcall => ?_, rfl, f, rfl, rfl⟩
      rw [(d.execute_eq_ok_iff c ms).mpr hcall] at hexecute
      cases hexecute

theorem runs_in_any_order (ds : List Descriptor) (hds : DistinctlyNamed ds) (c : Context) :
    ∃ ordered, OrderlyRun ds c ordered := by
  have hsort := sortByKey_perm Descriptor.label ds
  refine ⟨inOrder ds, hsort, ?_, ?_, ?_, ?_, ?_, ?_, fun d _ => d.all_or_nothing c⟩
  · refine (sortByKey_strict _ hds.labels).imp_of_mem ?_
    intro d e hd he hlt
    exact ⟨_, _, hds.name_eq (hsort.mem_iff.mp hd), hds.name_eq (hsort.mem_iff.mp he), hlt⟩
  · intro given workers completion hperm
    rw [(hds.perm hperm).runSafely_eq, hds.inOrder_eq hperm, runOrdered_outcome]
  · intro given workers completion hperm
    rw [((hds.perm hperm).runAll_eq c workers completion).1, hds.inOrder_eq hperm]
  · intro d hd
    have hsingle : inOrder [d] = [d] := rfl
    have houtcome := ((hds.singleton hd).runAll_eq c none (List.range 1)).1
    have herrors := (hds.singleton hd).errorsOf_runAll c none (List.range 1)
    rw [hsingle] at houtcome herrors
    simp only [List.flatMap_singleton] at houtcome herrors
    exact ⟨houtcome, herrors⟩
  · simp [List.map_flatMap, List.flatMap_map, Descriptor.contribution_message]
  · intro given workers completion hperm
    rw [(hds.perm hperm).errorsOf_runAll c workers completion, hds.inOrder_eq hperm]

/-- An analyzer that returns nothing and one that returns a message, given against their order: one
adds a message and the other one an error in the log. -/
theorem runs_in_any_order_two :
    let remark : Message :=
      { type := .text "t", text := .text "m", code := .text "A1", severity := .hint
        range :=
          { file := "m.py", startLine := 1, startColumn := 0, endLine := 1, endColumn := 4 } }
    let mute : Descriptor := { name := .text "b", kind := .cli, call := fun _ => .ok .nothing }
    let frank : Descriptor :=
      { name := .text "a", kind := .cli, call := fun _ => .ok (.many [.message remark] none) }
    let c : Context := { kind := .cli, file := "m.py" }
    DistinctlyNamed [mute, frank] ∧ ∃ ordered, OrderlyRun [mute, frank] c ordered ∧
      ∀ d ∈ [mute, frank], (d.contribution c).length + (d.complaint c).length = 1 := by
  intro remark mute frank c
  have hnames : DistinctlyNamed [mute, frank] := by
    constructor
    · intro d hd
      rcases List.mem_pair.mp hd with rfl | rfl
      · exact ⟨"b", rfl⟩
      · exact ⟨"a", rfl⟩
    · simp [mute, frank]
  obtain ⟨ordered, hrun⟩ := runs_in_any_order [mute, frank] hnames c
  refine ⟨hnames, ordered, hrun, ?_⟩
  intro d hd
  rcases List.mem_pair.mp hd with rfl | rfl <;> rfl

end Assay.Plugin
