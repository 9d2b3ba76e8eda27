import Assay.Proofs.Analysis

/-! # Analyses of several projects

An analysis of several projects is put together from the analyses of each of them alone: it fails if
one of them does, and otherwise it has their messages in order. As all projects are resolved before
any of them is analyzed, a project that does not resolve goes before one that fails later on.
-/

namespace Assay

open Check Plugin

/-! ## The first failure -/

section

variable {α β γ : Type} {f : α → Except Failure β}

theorem exists_error_iff {x : Except Failure α} :
    (∃ e, x = .error e) ↔ ¬ ∃ a, x = .ok a := by
  cases x <;> simp

theorem collect_ok_iff {g : α → Except Failure (List β)} {xs : List α} :
    (∃ ys, collect g xs = .ok ys) ↔ ∀ x ∈ xs, ∃ ys, g x = .ok ys := by
  rw [← Attempt.mapM_ok_iff, collect]
  exact Attempt.exists_map_eq_ok_iff

/-- The first item that fails decides. -/
theorem mapM_of_first_error {front back : List α} {x : α} {e : Failure}
    (hfront : ∀ y ∈ front, ∃ b, f y = .ok b) (hx : f x = .error e) :
    (front ++ x :: back).mapM f = .error e := by
  obtain ⟨ys, hys⟩ := Attempt.mapM_ok_iff.mpr hfront
  rw [List.mapM_append, hys, List.mapM_cons, hx]
  rfl

/-- Two stages of which the first one succeeds can be gone through item by item. -/
theorem mapM_bind_collect (load : α → Except Failure β) (run : β → Except Failure (List γ))
    {xs : List α} (hload : ∀ x ∈ xs, ∃ y, load x = .ok y) :
    (xs.mapM load >>= collect run) = collect (fun x => load x >>= run) xs := by
  induction xs with
  | nil => rfl
  | cons x xs ih =>
      obtain ⟨⟨y, hy⟩, hxs⟩ := List.forall_mem_cons.mp hload
      obtain ⟨ys, hys⟩ := Attempt.mapM_ok_iff.mpr hxs
      rw [List.mapM_cons, collect_cons, ← ih hxs, hy, hys]
      exact collect_cons run y ys

/-- A failure that all items share can be waited for until there is an item. -/
theorem bind_collect {g : γ → α → Except Failure (List β)} (shared : Except Failure γ) (x : α)
    (xs : List α) :
    (shared >>= fun s => collect (g s) (x :: xs)) =
      collect (fun x => shared >>= fun s => g s x) (x :: xs) := by
  cases shared with
  | ok s => rfl
  | error e =>
      rw [collect_cons]
      rfl

end

/-! ## What projects share -/

/-- What analyses with one configuration have in common, whatever they analyze. -/
structure Equipment where
  mappings : SeverityMappings
  registry : Registry
  pluginFiles : Nat
  analyzers : Nat

/-- Check the configuration and load the analyzers. -/
def equipment (tree : FileTree Program) (config : Config) (directory : Path) :
    Except Failure Equipment := do
  let mappings ← config.severityMappings
  mappings.ensureValid
  let (registry, pluginFiles, analyzers) ← Attempt.outcome (loadAnalyzers tree config directory)
  return { mappings, registry, pluginFiles, analyzers }

namespace Equipment

variable (e : Equipment) (tree : FileTree Program) (config : Config) (directory : Path)

/-- The messages of a project that was resolved, if it is the only one. -/
def messagesOf (options : ProjectOptions) : Except Failure (List AnalyzerMessage) := do
  messagesAlone e.registry tree (← config.texts .ignoreFiles) e.mappings options

/-- The messages of a project, if it is the only one. -/
def messagesAt (path : String) : Except Failure (List AnalyzerMessage) := do
  e.messagesOf tree config (← loadProject tree path directory)

/-- The outcome of an analysis with some messages. -/
def analysisOf (messages : List AnalyzerMessage) : Analysis :=
  { messages, pluginFiles := e.pluginFiles, analyzers := e.analyzers
    exitCode := .ofMessages (some messages) }

/-- The projects of an analysis have the messages that each of them has alone. -/
theorem runProjects_eq_collect (options : ProjectOptions) (rest : List ProjectOptions) :
    (config.texts .ignoreFiles >>= fun ignored => Attempt.outcome
      (runProjects e.registry tree ignored e.mappings {} (options :: rest))) =
      collect (e.messagesOf tree config) (options :: rest) := by
  simp only [runProjects_outcome Checker.faithful_empty]
  exact bind_collect _ options rest

end Equipment

theorem analyze_projects_outcome (tree : FileTree Program) (path : String) (paths : List String)
    (config : Config) (directory : Path) :
    Attempt.outcome (analyze tree (path :: paths) none config directory) =
      equipment tree config directory >>= fun e =>
        ((path :: paths).mapM fun p => loadProject tree p directory) >>= fun projects =>
          (collect (e.messagesOf tree config) projects).map e.analysisOf := by
  simp only [analyze, equipment, Subject.of, Subject.resolve, Attempt.outcome_bind,
    Attempt.outcome_ofExcept, Attempt.ok_bind, bind_assoc, pure_bind]
  refine bind_congr fun mappings => bind_congr fun _ => bind_congr fun loaded => ?_
  cases hprojects : (path :: paths).mapM fun p => loadProject tree p directory with
  | error f => rfl
  | ok projects =>
      -- there is a project, so that what all projects need is asked for
      rw [List.mapM_cons] at hprojects
      obtain ⟨options, _, hprojects⟩ := Attempt.of_bind_eq_ok hprojects
      obtain ⟨rest, _, hprojects⟩ := Attempt.of_bind_eq_ok hprojects
      cases hprojects
      rw [Attempt.ok_bind, Attempt.ok_bind, ← Equipment.runProjects_eq_collect]
      cases config.texts .ignoreFiles with
      | error f => rfl
      | ok ignored =>
          rw [Attempt.ok_bind, Attempt.ok_bind]
          cases Attempt.outcome
            (runProjects loaded.1 tree ignored mappings {} (options :: rest)) <;> rfl

theorem analyze_project_outcome (tree : FileTree Program) (path : String) (config : Config)
    (directory : Path) :
    Attempt.outcome (analyze tree [path] none config directory) =
      equipment tree config directory >>= fun e =>
        (e.messagesAt tree config directory path).map e.analysisOf := by
  rw [analyze_projects_outcome]
  refine bind_congr fun e => ?_
  rw [Equipment.messagesAt, List.mapM_cons, List.mapM_nil]
  cases loadProject tree path directory with
  | error f => rfl
  | ok options =>
      simp only [Attempt.ok_bind, pure_bind, collect_cons]
      cases e.messagesOf tree config options with
      | error f => rfl
      | ok messages => simp [collect, Except.map, pure, Except.pure]

/-! ## Several projects -/

/-- How the analysis of several projects is put together from the analyses of each of them alone.
Not every path needs to resolve to a project. -/
structure Joined (resolves : String → Prop) (alone : String → Except Failure Analysis)
    (paths : List String) (whole : Except Failure Analysis) : Prop where
  /-- It fails exactly if one of them does. -/
  fails_iff : (∃ f, whole = .error f) ↔ ∃ p ∈ paths, ∃ f, alone p = .error f
  /-- The first one that fails decides, unless it resolves and a later one does not. -/
  first : ∀ front p back f, paths = front ++ p :: back → (∀ q ∈ front, ∃ a, alone q = .ok a) →
    alone p = .error f → (resolves p → ∀ q ∈ back, resolves q) → whole = .error f
  /-- The first one that does not resolve goes before all that do. -/
  unresolved : ∀ front p back f, paths = front ++ p :: back → (∀ q ∈ front, resolves q) →
    ¬ resolves p → alone p = .error f → whole = .error f
  /-- If none fails there are the messages of all, in order. Each one has the same plugins and
  analyzers, and one violation is enough. -/
  returned : ∀ given : String → Analysis, (∀ p ∈ paths, alone p = .ok (given p)) →
    ∃ a, whole = .ok a ∧ a.messages = paths.flatMap (fun p => (given p).messages) ∧
      (∀ p ∈ paths, a.pluginFiles = (given p).pluginFiles ∧ a.analyzers = (given p).analyzers) ∧
      a.exitCode = if ∃ p ∈ paths, (given p).exitCode = .violation then .violation else .success

theorem ExitCode.ofMessages_some (messages : List AnalyzerMessage) :
    ofMessages (some messages) =
      if ∃ m ∈ messages, m.severity = .error then .violation else .success := by
  simp [ofMessages]

theorem ExitCode.ofMessages_eq_violation_iff (messages : List AnalyzerMessage) :
    ofMessages (some messages) = .violation ↔ ∃ m ∈ messages, m.severity = .error := by
  simp [ofMessages]

section

variable {e : Equipment} {tree : FileTree Program} {config : Config} {directory : Path}

theorem resolves_of_messagesAt {p : String} {messages : List AnalyzerMessage}
    (h : e.messagesAt tree config directory p = .ok messages) :
    ∃ options, loadProject tree p directory = .ok options := by
  obtain ⟨options, hoptions, _⟩ := Attempt.of_bind_eq_ok h
  exact ⟨options, hoptions⟩

namespace Equipment

/-- The rest of an analysis of projects when the analyzers are loaded. -/
def analysisAt (e : Equipment) (tree : FileTree Program) (config : Config) (directory : Path)
    (paths : List String) : Except Failure Analysis := do
  let projects ← paths.mapM fun p => loadProject tree p directory
  (collect (e.messagesOf tree config) projects).map e.analysisOf

/-- If all projects resolve, they can be gone through one by one. -/
theorem analysisAt_of_resolved {paths : List String}
    (h : ∀ p ∈ paths, ∃ options, loadProject tree p directory = .ok options) :
    e.analysisAt tree config directory paths =
      (collect (e.messagesAt tree config directory) paths).map e.analysisOf := by
  have hcollect : _ = collect (e.messagesAt tree config directory) paths :=
    mapM_bind_collect _ (e.messagesOf tree config) h
  rw [← hcollect, analysisAt]
  cases paths.mapM fun p => loadProject tree p directory <;> rfl

theorem analysisAt_ok_iff {paths : List String} :
    (∃ a, e.analysisAt tree config directory paths = .ok a) ↔
      ∀ p ∈ paths, ∃ messages, e.messagesAt tree config directory p = .ok messages := by
  constructor
  · rintro ⟨a, ha⟩
    obtain ⟨projects, hprojects, _⟩ := Attempt.of_bind_eq_ok ha
    rw [analysisAt_of_resolved (Attempt.mapM_ok_iff.mp ⟨projects, hprojects⟩)] at ha
    exact collect_ok_iff.mp (Attempt.exists_map_eq_ok_iff.mp ⟨a, ha⟩)
  · intro h
    rw [analysisAt_of_resolved fun p hp => (h p hp).elim fun _ => resolves_of_messagesAt]
    exact Attempt.exists_map_eq_ok_iff.mpr (collect_ok_iff.mpr h)

/-- A project that does not resolve is behind all projects in front of it that do. -/
theorem analysisAt_of_unresolved {front back : List String} {p : String} {f : Failure}
    (hfront : ∀ q ∈ front, ∃ options, loadProject tree q directory = .ok options)
    (hp : loadProject tree p directory = .error f) :
    e.analysisAt tree config directory (front ++ p :: back) = .error f := by
  rw [analysisAt, mapM_of_first_error hfront hp]
  rfl

/-- With the analyzers loaded, the rest of an analysis is joined from its projects. -/
theorem joined (e : Equipment) (tree : FileTree Program) (config : Config) (directory : Path)
    (paths : List String) :
    Joined (fun p => ∃ options, loadProject tree p directory = .ok options)
      (fun p => (e.messagesAt tree config directory p).map e.analysisOf) paths
      (e.analysisAt tree config directory paths) := by
  have hunresolved : ∀ p f, ¬ (∃ options, loadProject tree p directory = .ok options) →
      e.messagesAt tree config directory p = .error f → loadProject tree p directory = .error f := by
    intro p f hnone hp
    rcases Attempt.of_bind_eq_error hp with hload | ⟨options, hoptions, _⟩
    · exact hload
    · exact absurd ⟨options, hoptions⟩ hnone
  constructor
  · rw [exists_error_iff, analysisAt_ok_iff]
    simp only [exists_error_iff, Attempt.exists_map_eq_ok_iff, not_forall, exists_prop]
  · rintro front p back f rfl hfront hp hback
    have hmessages : ∀ q ∈ front, ∃ messages,
        e.messagesAt tree config directory q = .ok messages :=
      fun q hq => Attempt.exists_map_eq_ok_iff.mp (hfront q hq)
    have hresolved : ∀ q ∈ front, ∃ options, loadProject tree q directory = .ok options :=
      fun q hq => (hmessages q hq).elim fun _ => resolves_of_messagesAt
    have hfailed := Attempt.of_map_eq_error hp
    by_cases hpath : ∃ options, loadProject tree p directory = .ok options
    · have hall : ∀ q ∈ front ++ p :: back, ∃ options,
          loadProject tree q directory = .ok options :=
        List.forall_mem_append.mpr ⟨hresolved, List.forall_mem_cons.mpr ⟨hpath, hback hpath⟩⟩
      rw [analysisAt_of_resolved hall, collect, mapM_of_first_error hmessages hfailed]
      rfl
    · exact analysisAt_of_unresolved hresolved (hunresolved p f hpath hfailed)
  · rintro front p back f rfl hfront hpath hp
    exact analysisAt_of_unresolved hfront (hunresolved p f hpath (Attempt.of_map_eq_error hp))
  · intro given hgiven
    have hmessages : ∀ p ∈ paths,
        e.messagesAt tree config directory p = .ok (given p).messages ∧
          given p = e.analysisOf (given p).messages := by
      intro p hp
      obtain ⟨messages, hmessages, hgiven⟩ := Attempt.of_map_eq_ok (hgiven p hp)
      rw [← hgiven]
      exact ⟨hmessages, rfl⟩
    have hresolved : ∀ p ∈ paths, ∃ options, loadProject tree p directory = .ok options :=
      fun p hp => resolves_of_messagesAt (hmessages p hp).1
    refine ⟨e.analysisOf (paths.flatMap fun p => (given p).messages), ?_, rfl, ?_, ?_⟩
    · rw [analysisAt_of_resolved hresolved, collect_of_ok fun p hp => (hmessages p hp).1]
      rfl
    · intro p hp
      rw [(hmessages p hp).2]
      exact ⟨rfl, rfl⟩
    · have hviolation : ∀ p ∈ paths, ((given p).exitCode = .violation ↔
          ∃ m ∈ (given p).messages, m.severity = .error) := by
        intro p hp
        rw [(hmessages p hp).2]
        exact ExitCode.ofMessages_eq_violation_iff _
      refine (ExitCode.ofMessages_some _).trans (if_congr ?_ rfl rfl)
      simp only [List.mem_flatMap]
      constructor
      · rintro ⟨m, ⟨p, hp, hm⟩, herror⟩
        exact ⟨p, hp, (hviolation p hp).mpr ⟨m, hm, herror⟩⟩
      · rintro ⟨p, hp, hexit⟩
        obtain ⟨m, hm, herror⟩ := (hviolation p hp).mp hexit
        exact ⟨m, ⟨p, hp, hm⟩, herror⟩

end Equipment

end

theorem analyze_joined (tree : FileTree Program) (path : String) (paths : List String)
    (config : Config) (directory : Path) :
    Joined (fun p => ∃ options, loadProject tree p directory = .ok options)
      (fun p => Attempt.outcome (analyze tree [p] none config directory)) (path :: paths)
      (Attempt.outcome (analyze tree (path :: paths) none config directory)) := by
  simp only [analyze_projects_outcome tree path paths, analyze_project_outcome]
  cases equipment tree config directory with
  | ok e => exact e.joined tree config directory (path :: paths)
  | error f =>
      -- what is wrong with the configuration or the analyzers is wrong for each project alike
      refine ⟨⟨fun _ => ⟨path, List.mem_cons_self, f, rfl⟩, fun _ => ⟨f, rfl⟩⟩, ?_, ?_, ?_⟩
      · exact fun front p back g _ _ hp _ => hp
      · exact fun front p back g _ _ _ hp => hp
      · exact fun given hgiven => nomatch hgiven path List.mem_cons_self

/-- Two analyzers of which one has a number for a name: they cannot be put in order. -/
def unordered : Program :=
  { members := [.function { name := "a", marker := some { kind := .cli, name := .text "A" } },
      .function { name := "b", marker := some { kind := .cli, name := .int 5 } }]
    exports := .list [.text "a", .text "b"] }

/-- The first path fails alone, but it resolves. So the second one, which does not, decides. -/
theorem analyze_unresolved_goes_first :
    let tree : FileTree Program :=
      { entries := [(["an"], .directory), (["an", "x_analyzer.py"], .file [] (some unordered)),
          (["a.py"], .file [] none)] }
    let config := ({} : Config).set .analyzersPath (.tuple [.text "/an"])
    let failureAt (paths : List String) : Option (String × String) :=
      (Attempt.failure? (Attempt.outcome (analyze tree paths none config { root := .slash }))).map
        fun f => (f.kind, f.text)
    failureAt ["/a.py"] =
        some ("TypeError", "'<' not supported between instances of 'int' and 'str'") ∧
      failureAt ["/a.py", "/b.py"] =
        some ("ProjectLoadError", "Invalid project argument. Path does not exist: '/b.py'") := by
  constructor <;> decide +kernel

end Assay
