import Assay.Message.Policy
import Assay.Plugin.Registry
import Assay.Project.Glob

/-!
# Running analyzers on a project

All files of a project are checked first, also those that are ignored. Then each file that is not
ignored is read, checked and given to all analyzers, together with the results of the project. Files
that cannot be read or checked are left out.
-/

namespace Assay

open Check Plugin

/-- Give messages the severities that are configured. -/
def remapAll (mappings : SeverityMappings) (messages : List AnalyzerMessage) :
    Except Failure (List AnalyzerMessage) :=
  messages.mapM mappings.apply

/-- The messages of all analyzers for a checked file. -/
def analyzeChecked (registry : Registry) (mappings : SeverityMappings) (project : ProjectResults)
    (checked : CheckedFile) : Attempt (List AnalyzerMessage) := do
  let file := checked.file
  Attempt.note .debug s!"Running analyzers for {file}"
  let messages ← registry.run (.ofChecked project checked)
  Attempt.ofExcept (remapAll mappings messages)

/-- Read a file of a project. One that cannot be read is logged. -/
def readSource (tree : FileTree Program) (file : String) : Attempt (Option String) := do
  match tree.readText (Path.ofString file) with
  | .ok source => return some source
  | .error f =>
      if f.isReadFailure then
        Attempt.note .error (s!"Could not read {file}: " ++ f.text)
        return none
      else throw f

/-- The messages for files of a project one after the other. -/
def analyzeFiles (registry : Registry) (tree : FileTree Program) (options : ProjectOptions)
    (mappings : SeverityMappings) (project : ProjectResults) :
    Checker → List String → Attempt (List AnalyzerMessage × Checker)
  | checker, [] => return ([], checker)
  | checker, file :: rest => do
      match ← readSource tree file with
      | none => analyzeFiles registry tree options mappings project checker rest
      | some source =>
          let (checked, checker) ← Attempt.ofLogged (checker.typeCheck options.name file source)
          match checked with
          | none => analyzeFiles registry tree options mappings project checker rest
          | some checked =>
              let messages ← analyzeChecked registry mappings project checked
              let (more, checker) ←
                analyzeFiles registry tree options mappings project checker rest
              return (messages ++ more, checker)

/-- The messages of all analyzers for a project. Files that a glob tells are ignored. -/
def runProject (registry : Registry) (tree : FileTree Program) (options : ProjectOptions)
    (ignored : List String) (mappings : SeverityMappings) (checker : Checker) :
    Attempt (List AnalyzerMessage × Checker) := do
  let (project, checker) ← Attempt.ofLogged (checker.checkProject tree options)
  let project ← Attempt.ofExcept project
  let files ← Attempt.ofLogged (Glob.keepUntold ignored options.sources)
  analyzeFiles registry tree options mappings project checker files

end Assay
