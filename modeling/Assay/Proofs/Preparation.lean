import Assay.Proofs.Analysis
import Assay.Proofs.PlainTree
import Assay.Proofs.Registry

/-! # What comes before the first source file

An analysis is recorded: each source file that is checked and each analyzer that is called. The
record does not change what the analysis does. Failures of the configuration or of a project are all
found before anything is on record, and what is on record was done with everything ready.
-/

namespace Assay

open Check Plugin

/-! ## Records -/

/-- Something that an analysis does: a source file is parsed and checked, or an analyzer is
called. -/
inductive Deed where
  | check (file source : String)
  | call (analyzer : Value) (c : Context)

/-- A computation with the deeds on the way, as far as it gets. -/
structure Recorded (α : Type) where
  attempt : Attempt α
  deeds : List Deed := []

namespace Recorded

variable {α β : Type}

instance : Monad Recorded where
  pure a := { attempt := pure a }
  bind x f :=
    { attempt := x.attempt >>= fun a => (f a).attempt
      deeds := x.deeds ++ match Attempt.outcome x.attempt with
        | .ok a => (f a).deeds
        | .error _ => [] }

/-- A computation that neither checks a source file nor calls an analyzer. -/
def quiet (x : Attempt α) : Recorded α := { attempt := x }

/-- Check a file of a project. -/
def check (c : Checker) (file source : String) : Recorded (Option CheckedFile × Checker) :=
  { attempt := .ofLogged (c.check file source), deeds := [.check file source] }

/-- Check a file of a project before its analyzers are called. -/
def typeCheck (c : Checker) (project file source : String) :
    Recorded (Option CheckedFile × Checker) :=
  { attempt := .ofLogged (c.typeCheck project file source), deeds := [.check file source] }

/-- Call the analyzers that are registered, unless their names have no order. -/
def run (registry : Registry) (c : Context) : Recorded (List AnalyzerMessage) :=
  { attempt := registry.run c
    deeds := match sortByName registry.descriptors >>= byName >>= sortByName with
      | .ok ordered => ordered.map fun d => .call d.name c
      | .error _ => [] }

@[simp] theorem attempt_pure (a : α) : (pure a : Recorded α).attempt = pure a := rfl

@[simp] theorem attempt_quiet (x : Attempt α) : (quiet x).attempt = x := rfl

@[simp] theorem attempt_bind (x : Recorded α) (f : α → Recorded β) :
    (x >>= f).attempt = x.attempt >>= fun a => (f a).attempt := rfl

theorem deeds_quiet_bind (x : Attempt α) (f : α → Recorded β) :
    (quiet x >>= f).deeds = match Attempt.outcome x with
      | .ok a => (f a).deeds
      | .error _ => [] := rfl

theorem deeds_bind_pure (x : Recorded α) (g : α → β) :
    (x >>= fun a => pure (g a)).deeds = x.deeds := by
  change x.deeds ++ (match Attempt.outcome x.attempt with
    | .ok _ => ([] : List Deed)
    | .error _ => []) = x.deeds
  cases Attempt.outcome x.attempt <;> exact List.append_nil _

end Recorded

/-! ## Recorded analyses -/

/-- Check the files of a project one after the other. -/
def recordSources (tree : FileTree Program) :
    Checker → List String → Recorded (Except Failure ProjectResults × Checker)
  | c, [] => return (.ok {}, c)
  | c, file :: rest => do
      match tree.readText (Path.ofString file) with
      | .error f =>
          if f.isReadFailure then
            let text := f.text
            Recorded.quiet (Attempt.note .error s!"Could not read {file}: {text}")
            let (results, c) ← recordSources tree c rest
            return (results.map (·.addFailed file), c)
          else return (.error f, c)
      | .ok source =>
          let (checked, c) ← Recorded.check c file source
          let (results, c) ← recordSources tree c rest
          return (results.map (·.add file checked), c)

/-- The messages of all analyzers for a checked file. -/
def recordChecked (registry : Registry) (mappings : SeverityMappings) (project : ProjectResults)
    (checked : CheckedFile) : Recorded (List AnalyzerMessage) := do
  let file := checked.file
  Recorded.quiet (Attempt.note .debug s!"Running analyzers for {file}")
  let messages ← Recorded.run registry (.ofChecked project checked)
  Recorded.quiet (Attempt.ofExcept (remapAll mappings messages))

/-- The messages for files of a project one after the other. -/
def recordFiles (registry : Registry) (tree : FileTree Program) (options : ProjectOptions)
    (mappings : SeverityMappings) (project : ProjectResults) :
    Checker → List String → Recorded (List AnalyzerMessage × Checker)
  | checker, [] => return ([], checker)
  | checker, file :: rest => do
      match ← Recorded.quiet (readSource tree file) with
      | none => recordFiles registry tree options mappings project checker rest
      | some source =>
          let (checked, checker) ← Recorded.typeCheck checker options.name file source
          match checked with
          | none => recordFiles registry tree options mappings project checker rest
          | some checked =>
              let messages ← recordChecked registry mappings project checked
              let (more, checker) ←
                recordFiles registry tree options mappings project checker rest
              return (messages ++ more, checker)

/-- The messages of all analyzers for a project. -/
def recordProject (registry : Registry) (tree : FileTree Program) (options : ProjectOptions)
    (ignored : List String) (mappings : SeverityMappings) (checker : Checker) :
    Recorded (List AnalyzerMessage × Checker) := do
  let (project, checker) ← recordSources tree checker options.sources
  let project ← Recorded.quiet (Attempt.ofExcept project)
  let files ← Recorded.quiet (Attempt.ofLogged (Glob.keepUntold ignored options.sources))
  recordFiles registry tree options mappings project checker files

/-- The messages of all analyzers for projects one after the other. -/
def recordProjects (registry : Registry) (tree : FileTree Program) (ignored : List String)
    (mappings : SeverityMappings) :
    Checker → List ProjectOptions → Recorded (List AnalyzerMessage)
  | _, [] => return []
  | checker, options :: rest => do
      let (messages, checker) ← recordProject registry tree options ignored mappings checker
      return messages ++ (← recordProjects registry tree ignored mappings checker rest)

/-- Analyze projects or source files, and record what is done. -/
def recordAnalysis (tree : FileTree Program) (projects : List String)
    (sources : Option (List String)) (config : Config) (directory : Path) : Recorded Analysis := do
  let p ← Recorded.quiet (prepare tree projects sources config directory)
  return p.outcomeOf (← recordProjects p.registry tree p.ignored p.mappings {} p.projects)

/-! ## Records change nothing -/

theorem recordSources_attempt (tree : FileTree Program) (c : Checker) (files : List String) :
    (recordSources tree c files).attempt = .ofLogged (Checker.checkSources tree c files) := by
  induction files generalizing c with
  | nil => rfl
  | cons file rest ih =>
      unfold recordSources Checker.checkSources
      cases tree.readText (Path.ofString file) with
      | error f =>
          cases hexpected : f.isReadFailure with
          | false => simp [hexpected, Attempt.ofLogged_pure]
          | true =>
              simp only [hexpected, if_true, Recorded.attempt_bind, Recorded.attempt_quiet, ih,
                Attempt.ofLogged_bind]
              rfl
      | ok source =>
          simp only [Recorded.attempt_bind, ih, Attempt.ofLogged_bind]
          rfl

theorem recordFiles_attempt (registry : Registry) (tree : FileTree Program)
    (options : ProjectOptions) (mappings : SeverityMappings) (project : ProjectResults)
    (checker : Checker) (files : List String) :
    (recordFiles registry tree options mappings project checker files).attempt =
      analyzeFiles registry tree options mappings project checker files := by
  induction files generalizing checker with
  | nil => rfl
  | cons file rest ih =>
      unfold recordFiles analyzeFiles
      rw [Recorded.attempt_bind, Recorded.attempt_quiet]
      refine bind_congr fun source => ?_
      cases source with
      | none => exact ih checker
      | some source =>
          rw [Recorded.attempt_bind]
          refine bind_congr fun checked => ?_
          obtain ⟨checked, next⟩ := checked
          cases checked with
          | none => exact ih next
          | some checked =>
              simp only [Recorded.attempt_bind, ih]
              rfl

theorem recordProjects_attempt (registry : Registry) (tree : FileTree Program)
    (ignored : List String) (mappings : SeverityMappings) (checker : Checker)
    (projects : List ProjectOptions) :
    (recordProjects registry tree ignored mappings checker projects).attempt =
      runProjects registry tree ignored mappings checker projects := by
  induction projects generalizing checker with
  | nil => rfl
  | cons options rest ih =>
      have hproject : (recordProject registry tree options ignored mappings checker).attempt =
          runProject registry tree options ignored mappings checker := by
        simp only [recordProject, runProject, Checker.checkProject, Recorded.attempt_bind,
          recordSources_attempt, Recorded.attempt_quiet, recordFiles_attempt]
      unfold recordProjects runProjects
      simp only [Recorded.attempt_bind, hproject, ih, Recorded.attempt_pure]

/-- The recorded analysis is the analysis. -/
theorem recordAnalysis_attempt (tree : FileTree Program) (projects : List String)
    (sources : Option (List String)) (config : Config) (directory : Path) :
    (recordAnalysis tree projects sources config directory).attempt =
      analyze tree projects sources config directory := by
  rw [analyze_eq_prepare_finish]
  simp only [recordAnalysis, Recorded.attempt_bind, Recorded.attempt_quiet, recordProjects_attempt,
    Recorded.attempt_pure]
  rfl

/-! ## Late failures -/

theorem readText_error_kind {π : Type} {tree : FileTree π} {p : Path} {f : Failure}
    (h : tree.readText p = .error f) (hlate : f.isReadFailure = false) : f.kind = "ValueError" := by
  rcases FileTree.readText_error h with hsystem | ⟨-, rfl⟩ | ⟨_, _, -, -, rfl⟩
  · rw [Failure.isReadFailure, hsystem] at hlate
    cases hlate
  · rfl
  · cases hlate

theorem resultsIn_error_kind {π : Type} {tree : FileTree π} {files : List String} {f : Failure}
    (h : resultsIn tree files = .error f) : f.kind = "ValueError" := by
  induction files with
  | nil => cases h
  | cons file rest ih =>
      rcases Attempt.of_bind_eq_error h with hfile | ⟨checked, _, hrest⟩
      · unfold checkedIn at hfile
        split at hfile
        next => cases hfile
        next other hread =>
          split at hfile
          next => cases hfile
          next hlate =>
            cases hfile
            exact readText_error_kind hread (Bool.eq_false_of_not_eq_true hlate)
      · rcases Attempt.of_bind_eq_error hrest with hrest | ⟨results, _, hreturn⟩
        · exact ih hrest
        · cases hreturn

theorem mapError_type_error {α : Type} {x : Except String α} {f : Failure}
    (h : x.mapError Failure.type = .error f) : f.kind = "TypeError" := by
  cases x with
  | ok a => cases h
  | error text =>
      cases h
      rfl

theorem requireKey_error_kind {v : Value} {f : Failure} (h : v.requireKey = .error f) :
    f.kind = "TypeError" := by
  unfold Value.requireKey at h
  split at h
  next =>
    cases h
    rfl
  next => cases h

theorem byName_error_kind {ds : List Descriptor} {f : Failure} (h : byName ds = .error f) :
    f.kind = "TypeError" := by
  rcases Attempt.of_bind_eq_error h with hkeys | ⟨_, _, hreturn⟩
  · clear h
    induction ds with
    | nil => cases hkeys
    | cons d ds ih =>
        change (d.name.requireKey >>= fun _ => ds.forM fun d => d.name.requireKey) = _ at hkeys
        rcases Attempt.of_bind_eq_error hkeys with hkey | ⟨_, _, hrest⟩
        · exact requireKey_error_kind hkey
        · exact ih hrest
  · cases hreturn

/-- Analyzers fail as a whole only if their names cannot be put in order or be keys. -/
theorem runAll_error_kind {ds : List Descriptor} {c : Context} {f : Failure}
    (h : Attempt.outcome (runAll ds c) = .error f) : f.kind = "TypeError" := by
  unfold runAll at h
  simp only [Attempt.outcome_bind, Attempt.outcome_ofExcept] at h
  rcases Attempt.of_bind_eq_error h with hkept | ⟨kept, _, h⟩
  · rcases Attempt.of_bind_eq_error hkept with hsort | ⟨sorted, _, hkeys⟩
    · exact mapError_type_error hsort
    · exact byName_error_kind hkeys
  · rcases Attempt.of_bind_eq_error h with hsort | ⟨ordered, _, h⟩
    · exact mapError_type_error hsort
    · have hrun : Attempt.outcome (runOrdered ordered c none (List.range ds.length)) = _ :=
        runOrdered_outcome ordered c none (List.range ds.length)
      rw [hrun] at h
      cases h

theorem messagesFor_error_kind {registry : Registry} {mappings : SeverityMappings} {c : Context}
    {f : Failure} (h : messagesFor registry mappings c = .error f) : f.kind = "TypeError" := by
  rcases Attempt.of_bind_eq_error h with hrun | ⟨messages, _, hremap⟩
  · exact runAll_error_kind hrun
  · rw [remapAll_eq] at hremap
    split at hremap
    next =>
      cases hremap
      rfl
    next => cases hremap

theorem messagesAlone_error_kind {registry : Registry} {tree : FileTree Program}
    {ignored : List String} {mappings : SeverityMappings} {options : ProjectOptions} {f : Failure}
    (h : messagesAlone registry tree ignored mappings options = .error f) :
    f.kind = "ValueError" ∨ f.kind = "TypeError" := by
  rw [messagesAlone, runProject_outcome Checker.faithful_empty] at h
  rcases Attempt.of_bind_eq_error h with hresults | ⟨project, _, hcollect⟩
  · exact .inl (resultsIn_error_kind hresults)
  · obtain ⟨c, _, hc⟩ := collect_of_error hcollect
    exact .inr (messagesFor_error_kind hc)

/-- The second stage of an analysis has no failures of the first kind left. -/
theorem Prepared.finish_error_kind {p : Prepared} {tree : FileTree Program} {f : Failure}
    (h : Attempt.outcome (p.finish tree) = .error f) :
    f.kind = "ValueError" ∨ f.kind = "TypeError" := by
  unfold Prepared.finish at h
  rw [Attempt.outcome_bind, runProjects_outcome Checker.faithful_empty] at h
  rcases Attempt.of_bind_eq_error h with hcollect | ⟨messages, _, hreturn⟩
  · obtain ⟨options, _, hoptions⟩ := collect_of_error hcollect
    exact messagesAlone_error_kind hoptions
  · cases hreturn

/-! ## Everything ready -/

theorem eraseDups_sublist {α : Type} [BEq α] (xs : List α) : xs.eraseDups.Sublist xs := by
  match xs with
  | [] => simp
  | x :: xs =>
      have hrest := eraseDups_sublist (xs.filter fun y => !y == x)
      rw [List.eraseDups_cons]
      exact (hrest.trans List.filter_sublist).cons_cons x
termination_by xs.length
decreasing_by exact Nat.lt_succ_of_le (List.length_filter_le _ _)

/-- Only a list of items that are all different keeps its length. -/
theorem pairwise_of_length_eraseDups {α : Type} [BEq α] {xs : List α}
    (h : xs.length = xs.eraseDups.length) : xs.Pairwise fun x y => (y == x) = false := by
  induction xs with
  | nil => exact List.Pairwise.nil
  | cons x xs ih =>
      rw [List.eraseDups_cons, List.length_cons, List.length_cons] at h
      have hfilter := List.length_filter_le (fun y => !y == x) xs
      have hdups := (eraseDups_sublist (xs.filter fun y => !y == x)).length_le
      have hall : (xs.filter fun y => !y == x) = xs :=
        List.filter_eq_self.mpr (List.length_filter_eq_length_iff.mp (by omega))
      rw [hall] at h
      refine List.pairwise_cons.mpr ⟨?_, ih (by omega)⟩
      intro y hy
      simpa using List.filter_eq_self.mp hall y hy

/-- No code is listed for two severities. -/
def SeverityMappings.Disjoint (m : SeverityMappings) : Prop :=
  Severity.all.Pairwise fun s t => ∀ a ∈ m.codes s, ∀ b ∈ m.codes t, b.same a = false

theorem SeverityMappings.disjoint_of_ensureValid {m : SeverityMappings}
    (h : m.ensureValid = .ok ()) : m.Disjoint := by
  have hvalid : m.isValid = true := by
    by_contra hinvalid
    simp only [ensureValid, Bool.eq_false_of_not_eq_true hinvalid, Bool.not_false, if_true] at h
    obtain ⟨codes, _, hthrow⟩ := Attempt.of_bind_eq_ok h
    obtain ⟨text, _, hthrow⟩ := Attempt.of_bind_eq_ok hthrow
    cases hthrow
  have hlisted := pairwise_of_length_eraseDups (of_decide_eq_true hvalid)
  exact (List.pairwise_flatMap.mp hlisted).2

namespace Plugin.Registry

/-- What a registry comes to while it scans paths one after the other. -/
def scanAllTurns (tree : FileTree Program) (paths : List Path) : List Turn :=
  paths.flatMap (scanTurns tree)

/-- Scanning paths one after the other is a run through all of it, if nothing goes wrong. -/
theorem scanAll_of_ok {tree : FileTree Program} {r : Registry} {paths : List Path}
    {files analyzers : Nat} (h : (scanAll tree r paths).value.1 = .ok (files, analyzers)) :
    (scanAll tree r paths).value.2 = r.takeAll (r.reached (scanAllTurns tree paths)) ∧
      analyzers = (r.accepted (r.reached (scanAllTurns tree paths))).length := by
  induction paths generalizing r files analyzers with
  | nil =>
      cases h
      exact ⟨rfl, rfl⟩
  | cons path rest ih =>
      obtain ⟨hafter, -, hreports⟩ := Call.perform_spec r (.scan tree path)
      simp only [scanAll, Logged.value_bind] at h ⊢
      cases hcounts : (scan tree r path).value.1 with
      | error f => simp [hcounts] at h
      | ok counts =>
          have houtcome : ((Call.scan tree path).perform r).value.1 = .ok counts.2 := by
            simp [Call.perform, hcounts, Except.map]
          rw [houtcome] at hreports
          have hstop : r.stop? (scanTurns tree path) = none := by
            cases hstop : r.stop? (scanTurns tree path) with
            | none => rfl
            | some f =>
                obtain ⟨_, hfailed⟩ := hreports.interrupted (Option.isSome_of_eq_some hstop)
                cases hfailed
          have hturns : r.reached (scanAllTurns tree (path :: rest)) =
              r.reached (scanTurns tree path) ++ r.reached (scanAllTurns tree rest) := by
            rw [scanAllTurns, List.flatMap_cons, reached_append, hstop]
            rfl
          have hafter : (scan tree r path).value.2 =
              r.takeAll (r.reached (scanTurns tree path)) := hafter
          simp only [hcounts, Logged.value_bind, Logged.value_pure] at h ⊢
          obtain ⟨⟨moreFiles, more⟩, hmore, hsum⟩ := Attempt.of_map_eq_ok h
          obtain ⟨hentries, hlength⟩ := ih hmore
          rw [hafter, reached_takeAll] at hentries hlength
          rw [accepted_takeAll] at hlength
          have hfirst : counts.2 = (r.accepted (r.reached (scanTurns tree path))).length :=
            hreports.returned counts.2 rfl
          rw [hafter, hentries, hturns, takeAll_append, accepted_append, List.length_append, ← hfirst,
            ← hlength]
          exact ⟨rfl, (congrArg Prod.snd hsum).symm⟩

end Plugin.Registry

/-- Analyzers are loaded by a scan, which has found some. -/
theorem scanAll_of_loadAnalyzers {tree : FileTree Program} {config : Config} {directory : Path}
    {loaded : Registry × Nat × Nat}
    (h : Attempt.outcome (loadAnalyzers tree config directory) = .ok loaded) :
    ∃ paths start files analyzers, config.analyzerPaths tree directory = .ok paths ∧
      start.entries = [] ∧ (Registry.scanAll tree start paths).value.1 = .ok (files, analyzers) ∧
      analyzers ≠ 0 ∧ loaded.1 = (Registry.scanAll tree start paths).value.2 := by
  simp only [loadAnalyzers, loadRegistry, Attempt.outcome_bind, Attempt.outcome_ofExcept,
    Attempt.outcome_ofLogged] at h
  obtain ⟨paths, hpaths, h⟩ := Attempt.of_bind_eq_ok h
  obtain ⟨_, -, h⟩ := Attempt.of_bind_eq_ok h
  obtain ⟨registry, hregistry, h⟩ := Attempt.of_bind_eq_ok h
  obtain ⟨start, hstart, hregistry⟩ := Attempt.of_bind_eq_ok hregistry
  obtain ⟨scanned, hscanned, hregistry⟩ := Attempt.of_bind_eq_ok hregistry
  cases hscanned
  obtain ⟨⟨files, analyzers⟩, hcounts, hregistry⟩ := Attempt.of_bind_eq_ok hregistry
  cases hregistry
  obtain ⟨_, -, hstart⟩ := Attempt.of_bind_eq_ok hstart
  cases hstart
  split at h
  next => cases h
  next =>
    split at h
    next => cases h
    next hanalyzers =>
      cases h
      exact ⟨paths, _, files, analyzers, hpaths, rfl, hcounts, hanalyzers, rfl⟩

theorem loadAnalyzers_of_ok {tree : FileTree Program} {config : Config} {directory : Path}
    {loaded : Registry × Nat × Nat}
    (h : Attempt.outcome (loadAnalyzers tree config directory) = .ok loaded) :
    loaded.1.entries ≠ [] := by
  obtain ⟨paths, start, files, analyzers, -, hstart, hcounts, hanalyzers, hloaded⟩ :=
    scanAll_of_loadAnalyzers h
  obtain ⟨hentries, hlength⟩ := Registry.scanAll_of_ok hcounts
  intro hnone
  rw [hloaded, hentries, Registry.takeAll] at hnone
  rw [(putAll_eq_nil hnone).2] at hlength
  exact hanalyzers hlength

theorem loadProject_of_ok {π : Type} {tree : FileTree π} {path : String} {directory : Path}
    {options : ProjectOptions} (h : loadProject tree path directory = .ok options) :
    options.sources ≠ [] := by
  obtain ⟨p, _, h⟩ := Attempt.of_bind_eq_ok h
  -- however the files were found, they are returned only if there are some
  have hreturned : ∀ (root : Path) (files : List Path) (f : Failure),
      (if files.isEmpty = true then (.error f : Except Failure ProjectOptions)
        else .ok
          { name := p.toString, root := root.toString, sources := files.map Path.toString }) =
        .ok options → options.sources ≠ [] := by
    intro root files f h
    split at h
    next => cases h
    next hfiles =>
      cases h
      simpa using hfiles
  obtain ⟨here, -, h⟩ := Attempt.of_bind_eq_ok h
  simp only at h
  split at h
  next => cases h
  next =>
    obtain ⟨file, -, h⟩ := Attempt.of_bind_eq_ok h
    split at h
    next =>
      split at h
      next =>
        obtain ⟨files, -, h⟩ := Attempt.of_bind_eq_ok h
        exact hreturned _ _ _ h
      next =>
        split at h
        next =>
          obtain ⟨found, -, h⟩ := Attempt.of_bind_eq_ok h
          exact hreturned found.1 found.2 _ h
        next => cases h
    next =>
      obtain ⟨files, -, h⟩ := Attempt.of_bind_eq_ok h
      exact hreturned _ _ _ h

theorem projectOfSources_of_ok {π : Type} {tree : FileTree π} {sources : List String}
    {directory : Path} {options : ProjectOptions}
    (h : Attempt.outcome (projectOfSources tree sources directory) = .ok options) :
    options.sources ≠ [] := by
  simp only [projectOfSources] at h
  split at h
  next => cases h
  next =>
    simp only [Attempt.outcome_bind] at h
    obtain ⟨files, _, h⟩ := Attempt.of_bind_eq_ok h
    split at h
    next => cases h
    next hfiles =>
      cases h
      simpa using hfiles

/-- What is ready when the first file is checked: no code is listed for two severities of the
configuration, there are analyzers, and each project has files. -/
structure Prepared.IsReady (p : Prepared) (config : Config) : Prop where
  mappings : config.severityMappings = .ok p.mappings
  disjoint : p.mappings.Disjoint
  registry : p.registry.entries ≠ []
  sources : ∀ options ∈ p.projects, options.sources ≠ []

theorem Subject.resolve_of_ok {tree : FileTree Program} {directory : Path} {subject : Subject}
    {projects : List ProjectOptions}
    (h : Attempt.outcome (subject.resolve tree directory) = .ok projects) :
    ∀ options ∈ projects, options.sources ≠ [] := by
  cases subject with
  | sources files =>
      simp only [Subject.resolve, Attempt.outcome_bind] at h
      obtain ⟨options, hoptions, h⟩ := Attempt.of_bind_eq_ok h
      cases h
      exact List.forall_mem_singleton.mpr (projectOfSources_of_ok hoptions)
  | projects paths =>
      simp only [Subject.resolve, Attempt.outcome_ofExcept] at h
      induction paths generalizing projects with
      | nil =>
          cases h
          exact List.forall_mem_nil _
      | cons path rest ih =>
          rw [List.mapM_cons] at h
          obtain ⟨options, hoptions, h⟩ := Attempt.of_bind_eq_ok h
          obtain ⟨more, hmore, h⟩ := Attempt.of_bind_eq_ok h
          cases h
          exact List.forall_mem_cons.mpr ⟨loadProject_of_ok hoptions, ih hmore⟩

/-- Whatever an analysis is given, it is ready when it has been prepared. -/
theorem prepare_isReady {tree : FileTree Program} {projects : List String}
    {sources : Option (List String)} {config : Config} {directory : Path} {p : Prepared}
    (h : Attempt.outcome (prepare tree projects sources config directory) = .ok p) :
    p.IsReady config := by
  simp only [prepare, Attempt.outcome_bind, Attempt.outcome_ofExcept] at h
  obtain ⟨mappings, hmappings, h⟩ := Attempt.of_bind_eq_ok h
  obtain ⟨_, hvalid, h⟩ := Attempt.of_bind_eq_ok h
  obtain ⟨subject, _, h⟩ := Attempt.of_bind_eq_ok h
  obtain ⟨⟨registry, files, analyzers⟩, hload, h⟩ := Attempt.of_bind_eq_ok h
  obtain ⟨options, hoptions, h⟩ := Attempt.of_bind_eq_ok h
  obtain ⟨ignored, _, h⟩ := Attempt.of_bind_eq_ok h
  cases h
  exact ⟨hmappings, SeverityMappings.disjoint_of_ensureValid hvalid, loadAnalyzers_of_ok hload,
    Subject.resolve_of_ok hoptions⟩

/-! ## First things first -/

theorem recordAnalysis_deeds (tree : FileTree Program) (projects : List String)
    (sources : Option (List String)) (config : Config) (directory : Path) :
    (recordAnalysis tree projects sources config directory).deeds =
      match Attempt.outcome (prepare tree projects sources config directory) with
      | .ok p => (recordProjects p.registry tree p.ignored p.mappings {} p.projects).deeds
      | .error _ => [] := by
  rw [recordAnalysis, Recorded.deeds_quiet_bind]
  cases Attempt.outcome (prepare tree projects sources config directory) with
  | error f => rfl
  | ok p => exact Recorded.deeds_bind_pure _ p.outcomeOf

/-- A failure of the configuration or of a project leaves nothing on record, and what is on record
was done with everything ready. -/
theorem analyze_prepares_first (tree : FileTree Program) (projects : List String)
    (sources : Option (List String)) (config : Config) (directory : Path) :
    let run := recordAnalysis tree projects sources config directory
    run.attempt = analyze tree projects sources config directory ∧
      (∀ f, Attempt.outcome (analyze tree projects sources config directory) = .error f →
        f.kind = "ConfigError" ∨ f.kind = "ProjectLoadError" → run.deeds = []) ∧
      (run.deeds ≠ [] →
        ∃ p, Attempt.outcome (prepare tree projects sources config directory) = .ok p ∧
          p.IsReady config ∧
          run.deeds =
            (recordProjects p.registry tree p.ignored p.mappings {} p.projects).deeds) := by
  intro run
  have hdeeds : run.deeds = _ := recordAnalysis_deeds tree projects sources config directory
  refine ⟨recordAnalysis_attempt tree projects sources config directory, ?_, ?_⟩
  · intro f hf hkind
    rw [analyze_eq_prepare_finish, Attempt.outcome_bind] at hf
    rcases Attempt.of_bind_eq_error hf with hprepare | ⟨p, _, hfinish⟩
    · rw [hdeeds, hprepare]
    · -- a prepared analysis fails with neither of the two kinds
      have hlate := Prepared.finish_error_kind hfinish
      rcases hkind with hkind | hkind <;> simp [hkind] at hlate
  · intro hsome
    cases hprepare : Attempt.outcome (prepare tree projects sources config directory) with
    | error f =>
        rw [hdeeds, hprepare] at hsome
        exact absurd rfl hsome
    | ok p =>
        rw [hprepare] at hdeeds
        exact ⟨p, rfl, prepare_isReady hprepare, hdeeds⟩

/-- An analyzer that finds nothing. -/
def silent : Program :=
  { members := [.function { name := "a", marker := some { kind := .cli, name := .text "A" } }]
    exports := .list [.text "a"] }

/-- Nothing is done to the first project if there is no second one. Without the second one the first
project is analyzed, with its analyzer registered. -/
theorem analyze_prepares_first_two :
    let tree : FileTree Program :=
      { entries := [(["an"], .directory), (["an", "x_analyzer.py"], .file [] (some silent)),
          (["a.py"], .file [] none)] }
    let config := ({} : Config).set .analyzersPath (.tuple [.text "/an"])
    (recordAnalysis tree ["/a.py", "/b.py"] none config { root := .slash }).deeds = [] ∧
      (recordAnalysis tree ["/a.py"] none config { root := .slash }).deeds ≠ [] ∧
      ∃ p, Attempt.outcome (prepare tree ["/a.py"] none config { root := .slash }) = .ok p ∧
        p.mappings.Disjoint ∧ p.registry.entries ≠ [] := by
  intro tree config
  have hmissing : (Attempt.failure? (Attempt.outcome
      (analyze tree ["/a.py", "/b.py"] none config { root := .slash }))).map (·.kind) =
      some "ProjectLoadError" := by
    decide +kernel
  have hsome : (recordAnalysis tree ["/a.py"] none config { root := .slash }).deeds.isEmpty =
      false := by
    decide +kernel
  have hdeeds := List.isEmpty_eq_false_iff.mp hsome
  obtain ⟨f, hf, hkind⟩ := Option.map_eq_some_iff.mp hmissing
  obtain ⟨_, hearly, _⟩ :=
    analyze_prepares_first tree ["/a.py", "/b.py"] none config { root := .slash }
  obtain ⟨_, _, hready⟩ := analyze_prepares_first tree ["/a.py"] none config { root := .slash }
  obtain ⟨p, hp, hp_ready, _⟩ := hready hdeeds
  exact ⟨hearly f (Attempt.failure?_eq_some_iff.mp hf) (.inr hkind), hdeeds, p, hp,
    hp_ready.disjoint, hp_ready.registry⟩

end Assay
