import Assay.Project.Analysis
import Assay.Proofs.ProjectRun

/-! # Analyses in two stages

An analysis first gets everything ready and only then looks at source files: it is the one stage
after the other. The second stage goes through the projects one by one, and what the checker
remembers of one of them does not show in the next.
-/

namespace Assay

open Check Plugin

/-! ## From file to file -/

/-- The messages of a project, if it is the only one. -/
def messagesAlone (registry : Registry) (tree : FileTree Program) (ignored : List String)
    (mappings : SeverityMappings) (options : ProjectOptions) :
    Except Failure (List AnalyzerMessage) :=
  (Attempt.outcome (runProject registry tree options ignored mappings {})).map (·.1)

theorem messagesAlone_eq {checker : Checker} (hchecker : checker.Faithful) (registry : Registry)
    (tree : FileTree Program) (ignored : List String) (mappings : SeverityMappings)
    (options : ProjectOptions) :
    (Attempt.outcome (runProject registry tree options ignored mappings checker)).map (·.1) =
      messagesAlone registry tree ignored mappings options := by
  rw [messagesAlone, runProject_outcome hchecker, runProject_outcome Checker.faithful_empty]

theorem analyzeFiles_faithful {registry : Registry} {tree : FileTree Program}
    {options : ProjectOptions} {mappings : SeverityMappings} {project : ProjectResults}
    {files : List String} {checker next : Checker} {messages : List AnalyzerMessage}
    (hchecker : checker.Faithful)
    (hrun : Attempt.outcome (analyzeFiles registry tree options mappings project checker files) =
      .ok (messages, next)) : next.Faithful := by
  induction files generalizing checker messages with
  | nil =>
      cases hrun
      exact hchecker
  | cons file rest ih =>
      unfold analyzeFiles at hrun
      rw [Attempt.outcome_bind] at hrun
      obtain ⟨source, _, hrun⟩ := Attempt.of_bind_eq_ok hrun
      cases source with
      | none => exact ih hchecker hrun
      | some source =>
          have htyped := (hchecker.typeCheck options.name file source).2
          simp only [Attempt.outcome_bind, Attempt.outcome_ofLogged, Attempt.ok_bind] at hrun
          cases hchecked : (checker.typeCheck options.name file source).value.1 with
          | none =>
              rw [hchecked] at hrun
              exact ih htyped hrun
          | some checked =>
              simp only [hchecked, Attempt.outcome_bind] at hrun
              obtain ⟨_, _, hrun⟩ := Attempt.of_bind_eq_ok hrun
              obtain ⟨⟨more, last⟩, hmore, hrun⟩ := Attempt.of_bind_eq_ok hrun
              cases hrun
              exact ih htyped hmore

/-- A run on a project leaves a checker behind that other projects can go on with. -/
theorem runProject_faithful {checker next : Checker} (hchecker : checker.Faithful)
    {registry : Registry} {tree : FileTree Program} {options : ProjectOptions}
    {ignored : List String} {mappings : SeverityMappings} {messages : List AnalyzerMessage}
    (hrun : Attempt.outcome (runProject registry tree options ignored mappings checker) =
      .ok (messages, next)) : next.Faithful := by
  have hchecked := (hchecker.checkSources tree options.sources).2
  unfold runProject Checker.checkProject at hrun
  simp only [Attempt.outcome_bind, Attempt.outcome_ofLogged, Attempt.ok_bind] at hrun
  obtain ⟨project, _, hrun⟩ := Attempt.of_bind_eq_ok hrun
  exact analyzeFiles_faithful hchecked hrun

/-! ## From project to project -/

/-- Projects that share a checker have the messages that each of them has alone. -/
theorem runProjects_outcome {checker : Checker} (hchecker : checker.Faithful)
    (registry : Registry) (tree : FileTree Program) (ignored : List String)
    (mappings : SeverityMappings) (projects : List ProjectOptions) :
    Attempt.outcome (runProjects registry tree ignored mappings checker projects) =
      collect (messagesAlone registry tree ignored mappings) projects := by
  induction projects generalizing checker with
  | nil => rfl
  | cons options rest ih =>
      have halone := messagesAlone_eq hchecker registry tree ignored mappings options
      rw [runProjects, Attempt.outcome_bind, collect_cons, ← halone]
      cases hrun : Attempt.outcome (runProject registry tree options ignored mappings checker) with
      | error f => rfl
      | ok result =>
          obtain ⟨messages, next⟩ := result
          simp only [Attempt.ok_bind, Attempt.outcome_bind, ih (runProject_faithful hchecker hrun),
            Except.map]
          cases collect (messagesAlone registry tree ignored mappings) rest <;> rfl

/-! ## Getting ready -/

/-- What an analysis has ready before it looks at a source file. -/
structure Prepared where
  mappings : SeverityMappings
  registry : Registry
  pluginFiles : Nat
  analyzers : Nat
  projects : List ProjectOptions
  ignored : List String

/-- Get an analysis ready: everything it does before the first project is checked. -/
def prepare (tree : FileTree Program) (projects : List String) (sources : Option (List String))
    (config : Config) (directory : Path) : Attempt Prepared := do
  let mappings ← Attempt.ofExcept config.severityMappings
  Attempt.ofExcept mappings.ensureValid
  let subject ← Attempt.ofExcept (Subject.of projects sources)
  let (registry, pluginFiles, analyzers) ← loadAnalyzers tree config directory
  let projects ← subject.resolve tree directory
  let ignored ← Attempt.ofExcept (config.texts .ignoreFiles)
  return { mappings, registry, pluginFiles, analyzers, projects, ignored }

namespace Prepared

/-- The outcome of an analysis with some messages. -/
def outcomeOf (p : Prepared) (messages : List AnalyzerMessage) : Analysis :=
  { messages, pluginFiles := p.pluginFiles, analyzers := p.analyzers
    exitCode := .ofMessages (some messages) }

/-- The second stage of an analysis: check the projects and run the analyzers on them. -/
def finish (p : Prepared) (tree : FileTree Program) : Attempt Analysis := do
  return p.outcomeOf (← runProjects p.registry tree p.ignored p.mappings {} p.projects)

end Prepared

theorem analyze_eq_prepare_finish (tree : FileTree Program) (projects : List String)
    (sources : Option (List String)) (config : Config) (directory : Path) :
    analyze tree projects sources config directory =
      prepare tree projects sources config directory >>= fun p => p.finish tree := by
  have := Logged.lawfulMonad
  simp only [analyze, prepare, Prepared.finish, bind_assoc, pure_bind]
  rfl

end Assay
