import Assay.Proofs.ProjectRun

/-! # Faults of analyzers in a project

An analyzer that fails, or returns something else than messages, costs a run its own messages only.
Behind that barrier one thing is left that an analyzer decides and a run still looks at: the codes
of the messages. A run on a project returns exactly if all of them can be looked up.
-/

namespace Assay

open Check Plugin

/-! ## One context -/

/-- The messages of all analyzers for a context. -/
def gathered (registry : Registry) (c : Context) : List AnalyzerMessage :=
  (inOrder registry.descriptors).flatMap (·.contribution c)

theorem mem_gathered {registry : Registry} {c : Context} {m : AnalyzerMessage} :
    m ∈ gathered registry c ↔ ∃ d ∈ registry.descriptors, m ∈ d.contribution c := by
  have hperm := Value.sortByKey_perm Descriptor.label registry.descriptors
  simp only [gathered, List.mem_flatMap, hperm.mem_iff]

theorem run_outcome_gathered {registry : Registry} (hnames : DistinctlyNamed registry.descriptors)
    (c : Context) : Attempt.outcome (registry.run c) = .ok (gathered registry c) :=
  (hnames.runAll_eq c none (List.range registry.descriptors.length)).1

theorem messagesFor_eq {registry : Registry} (hnames : DistinctlyNamed registry.descriptors)
    (mappings : SeverityMappings) (c : Context) :
    messagesFor registry mappings c =
      match (gathered registry c).findSome? (·.code.unsearchable?) with
      | some type => .error (Value.keyFailure type)
      | none => .ok ((gathered registry c).map mappings.remapped) := by
  rw [messagesFor, run_outcome_gathered hnames, Attempt.ok_bind]
  exact remapAll_eq mappings (gathered registry c)

/-! ## Whole runs -/

/-- What the analyzers can do to a run on a project that calls them with some contexts. -/
structure IsolatedRun (registry : Registry) (mappings : SeverityMappings) (contexts : List Context)
    (outcome : Except Failure (List AnalyzerMessage)) : Prop where
  /-- An analyzer that fails, or returns anything but a list of messages, gives no messages. -/
  faulty : ∀ c ∈ contexts, ∀ d ∈ registry.descriptors,
    (∀ ms : List Message, d.call c ≠ .ok (.many (ms.map .message) none)) → d.contribution c = []
  /-- The run returns exactly if the codes of all messages can be looked up. -/
  returns_iff : (∃ messages, outcome = .ok messages) ↔
    ∀ c ∈ contexts, ∀ d ∈ registry.descriptors, ∀ m ∈ d.contribution c, m.code.unsearchable? = none
  /-- If it returns, then with the messages of all analyzers for all contexts. -/
  messages : ∀ messages, outcome = .ok messages → messages = contexts.flatMap fun c =>
    (inOrder registry.descriptors).flatMap fun d => (d.contribution c).map mappings.remapped
  /-- If it does not, then because of such a code. -/
  failure : ∀ f, outcome = .error f →
    ∃ c ∈ contexts, ∃ d ∈ registry.descriptors, ∃ m ∈ d.contribution c, ∃ type,
      m.code.unsearchable? = some type ∧ f = Value.keyFailure type

theorem isolatedRun_collect {registry : Registry} (hnames : DistinctlyNamed registry.descriptors)
    (mappings : SeverityMappings) (contexts : List Context) :
    IsolatedRun registry mappings contexts (collect (messagesFor registry mappings) contexts) := by
  -- both directions in terms of all messages for a context, whichever analyzer they are from
  have hok : (∀ c ∈ contexts, ∀ m ∈ gathered registry c, m.code.unsearchable? = none) →
      collect (messagesFor registry mappings) contexts =
        .ok (contexts.flatMap fun c => (gathered registry c).map mappings.remapped) := by
    intro hkeys
    refine collect_of_ok fun c hc => ?_
    rw [messagesFor_eq hnames, List.findSome?_eq_none_iff.mpr (hkeys c hc)]
  have hkeys : ∀ messages, collect (messagesFor registry mappings) contexts = .ok messages →
      ∀ c ∈ contexts, ∀ m ∈ gathered registry c, m.code.unsearchable? = none := by
    intro messages hmessages c hc
    obtain ⟨found, hfound⟩ := of_collect_ok hmessages c hc
    rw [messagesFor_eq hnames] at hfound
    refine List.findSome?_eq_none_iff.mp ?_
    split at hfound
    next => cases hfound
    next hnone => exact hnone
  constructor
  · intro c _ d _ hcall
    rcases d.all_or_nothing c with ⟨ms, hms, _⟩ | ⟨_, hnothing, _⟩
    · exact absurd hms (hcall ms)
    · exact hnothing
  · constructor
    · rintro ⟨messages, hmessages⟩ c hc d hd m hm
      exact hkeys messages hmessages c hc m (mem_gathered.mpr ⟨d, hd, hm⟩)
    · intro hall
      refine ⟨_, hok fun c hc m hm => ?_⟩
      obtain ⟨d, hd, hm⟩ := mem_gathered.mp hm
      exact hall c hc d hd m hm
  · intro messages hmessages
    have heq := hmessages.symm.trans (hok (hkeys messages hmessages))
    simpa [gathered, List.map_flatMap] using heq
  · intro f hf
    obtain ⟨c, hc, hfailed⟩ := collect_of_error hf
    rw [messagesFor_eq hnames] at hfailed
    split at hfailed
    next type htype =>
      obtain ⟨m, hm, hcode⟩ := List.exists_of_findSome?_eq_some htype
      obtain ⟨d, hd, hm⟩ := mem_gathered.mp hm
      exact ⟨c, hc, d, hd, m, hm, type, hcode, (Except.error.inj hfailed).symm⟩
    next => cases hfailed

/-- A run on a project that can be read returns messages, unless an analyzer gives a message with a
code that cannot be looked up. -/
theorem runProject_isolated_iff (registry : Registry)
    (hnames : DistinctlyNamed registry.descriptors) (tree : FileTree Program)
    (options : ProjectOptions) (ignored : List String) (mappings : SeverityMappings)
    (calls : List (Checker.Call Program)) :
    let checker := Checker.after calls
    let outcome :=
      (Attempt.outcome (runProject registry tree options ignored mappings checker)).map (·.1)
    (∀ f, (checker.checkProject tree options).value.1 = .error f → outcome = .error f) ∧
      ∀ project, (checker.checkProject tree options).value.1 = .ok project →
        IsolatedRun registry mappings (analyzedContexts tree options ignored project) outcome := by
  intro checker outcome
  have hrun : outcome = _ :=
    runProject_outcome (Checker.faithful_after calls) registry tree options ignored mappings
  rw [Checker.checkProject_after]
  constructor
  · intro f hf
    rw [hrun, hf]
    rfl
  · intro project hproject
    rw [hrun, hproject]
    exact isolatedRun_collect hnames mappings _

theorem distinctlyNamed_remarkOn {first second : String} (hne : first ≠ second) (a b : Value) :
    DistinctlyNamed [remarkOn first a, remarkOn second b] := by
  constructor
  · intro d hd
    rcases List.mem_pair.mp hd with rfl | rfl
    · exact ⟨first, rfl⟩
    · exact ⟨second, rfl⟩
  · simpa [remarkOn] using hne

/-- A list as the code of one message takes the messages of all other analyzers with it. -/
theorem runProject_isolated_iff_remark :
    let registry : Registry :=
      { entries := [(.text "Bad", remarkOn "Bad" (.list [])),
          (.text "Good", remarkOn "Good" (.text "N1"))] }
    let tree : FileTree Program := { entries := [(["a.py"], .file [] none)] }
    let options : ProjectOptions := { name := "P", root := "/", sources := ["/a.py"] }
    DistinctlyNamed registry.descriptors ∧
      (Attempt.outcome (runProject registry tree options [] {} {})).map (·.1) =
        .error (.type "unhashable type: 'list'") := by
  intro registry tree options
  have hnames : DistinctlyNamed registry.descriptors :=
    distinctlyNamed_remarkOn (by decide) (.list []) (.text "N1")
  refine ⟨hnames, ?_⟩
  have hisolated := (runProject_isolated_iff registry hnames tree options [] {} []).2
  have hcheck : (({} : Checker).checkProject tree options).value.1.isOk = true := by decide +kernel
  cases hproject : (({} : Checker).checkProject tree options).value.1 with
  | error f => simp [hproject, Except.isOk, Except.toBool] at hcheck
  | ok project =>
      have hrun := hisolated project hproject
      have hresults : resultsIn tree options.sources = .ok project :=
        (Checker.checkProject_after [] tree options).symm.trans hproject
      have hanalyzed : analyzedFiles options [] project = ["/a.py"] := by
        rw [analyzedFiles, (resultsIn_of_ok hresults).2.2]
        decide +kernel
      have hcontext :
          contextOf tree project "/a.py" ∈ analyzedContexts tree options [] project := by
        rw [analyzedContexts, hanalyzed]
        exact List.mem_singleton_self _
      cases houtcome : (Attempt.outcome (runProject registry tree options [] {} {})).map (·.1) with
      | ok messages =>
          have hkeys := hrun.returns_iff.mp ⟨messages, houtcome⟩ _ hcontext
            (remarkOn "Bad" (.list [])) List.mem_cons_self _ (List.mem_singleton_self _)
          cases hkeys
      | error f =>
          obtain ⟨c, _, d, hd, m, hm, type, hcode, rfl⟩ := hrun.failure f houtcome
          rcases List.mem_pair.mp hd with rfl | rfl
          · rw [List.mem_singleton.mp hm] at hcode
            cases hcode
            rfl
          · rw [List.mem_singleton.mp hm] at hcode
            cases hcode

end Assay
