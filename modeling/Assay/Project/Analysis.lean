import Assay.Project.Config
import Assay.Project.Run
import Assay.Project.Sources

/-!
# Analyses

An analysis loads the analyzers, resolves all projects and only then runs the analyzers on them. What
is wrong with the configuration or with a project shows before any analyzer is called.
-/

namespace Assay

open Check Plugin

/-- What is analyzed: projects, or a list of source files. -/
inductive Subject where
  | projects (paths : List String)
  | sources (files : List String)
  deriving DecidableEq, Repr

/-- The outcome of an analysis. -/
structure Analysis where
  messages : List AnalyzerMessage
  pluginFiles : Nat
  analyzers : Nat
  exitCode : ExitCode

/-- The subject that projects and source files name; there must be one of them, and not both. -/
def Subject.of (projects : List String) (sources : Option (List String)) :
    Except Failure Subject :=
  match projects, sources with
  | [], none =>
      .error (.project "No project given. Use `--project PATH` or `--sources FILE ...`.")
  | [], some files => .ok (.sources files)
  | _ :: _, none => .ok (.projects projects)
  | _ :: _, some _ => .error (.config "`--project` and `--sources` cannot be combined.")

/-- The projects of a subject. -/
def Subject.resolve (tree : FileTree Program) (directory : Path) :
    Subject → Attempt (List ProjectOptions)
  | .sources files => do return [← projectOfSources tree files directory]
  | .projects paths => Attempt.ofExcept (paths.mapM fun p => loadProject tree p directory)

/-- Load the analyzers that are configured; there must be some. -/
def loadAnalyzers (tree : FileTree Program) (config : Config) (directory : Path) :
    Attempt (Registry × Nat × Nat) := do
  let paths ← Attempt.ofExcept (config.analyzerPaths tree directory)
  let places := Value.commaed (paths.map Path.toString)
  Attempt.note .info s!"Loading analyzers from {places}"
  let (registry, files, analyzers) ←
    loadRegistry tree paths .cli (config.get .excludeAnalyzers)
  if files = 0 then throw (.config s!"No analyzer plugin files found in {places}")
  if analyzers = 0 then throw (.config s!"No analyzers registered from {files} plugin file(s)")
  return (registry, files, analyzers)

/-- Run analyzers on projects one after the other, with one checker for all. -/
def runProjects (registry : Registry) (tree : FileTree Program) (ignored : List String)
    (mappings : SeverityMappings) :
    Checker → List ProjectOptions → Attempt (List AnalyzerMessage)
  | _, [] => return []
  | checker, options :: rest => do
      let (messages, checker) ← runProject registry tree options ignored mappings checker
      return messages ++ (← runProjects registry tree ignored mappings checker rest)

/-- Analyze projects or source files. -/
def analyze (tree : FileTree Program) (projects : List String) (sources : Option (List String))
    (config : Config) (directory : Path) : Attempt Analysis := do
  let mappings ← Attempt.ofExcept config.severityMappings
  Attempt.ofExcept mappings.ensureValid
  let subject ← Attempt.ofExcept (Subject.of projects sources)
  let (registry, pluginFiles, analyzers) ← loadAnalyzers tree config directory
  let options ← subject.resolve tree directory
  let ignored ← Attempt.ofExcept (config.texts .ignoreFiles)
  let messages ← runProjects registry tree ignored mappings {} options
  return { messages, pluginFiles, analyzers, exitCode := .ofMessages (some messages) }

end Assay
