import Assay.Check.File
import Assay.File.Tree

/-!
# Checking projects

A checker remembers each file that it has checked with the text that it had. It answers from memory
while the text is the same. A file that fails is not remembered, and what was remembered of it before
stays.
-/

namespace Assay.Check

/-- The files of a project. -/
structure ProjectOptions where
  name : String
  root : String
  sources : List String := []
  deriving DecidableEq, Repr, Inhabited

/-- The results of all files of a project, and the files that failed. -/
structure ProjectResults where
  files : List CheckResults := []
  failed : List String := []

namespace ProjectResults

/-- Whether any file failed. -/
def hasCriticalErrors (p : ProjectResults) : Bool := !p.failed.isEmpty

/-- The uses in all files. -/
def uses (p : ProjectResults) : List SymbolUse := p.files.flatMap (·.uses)

/-- The results of a file. -/
def forFile (p : ProjectResults) (file : String) : Option CheckResults :=
  p.files.find? fun c => c.file == file

/-- The results with a file in front that failed. -/
def addFailed (p : ProjectResults) (file : String) : ProjectResults :=
  { p with failed := file :: p.failed }

/-- The results with a file in front that was checked or failed. -/
def add (p : ProjectResults) (file : String) : Option CheckedFile → ProjectResults
  | some checked => { p with files := checked.check :: p.files }
  | none => p.addFailed file

end ProjectResults

/-- A file that is remembered. Each time a file is checked anew it gets the next serial number. -/
structure Remembered where
  checked : CheckedFile
  serial : Nat

/-- A checker with its memory, and the number of files it has checked. -/
structure Checker where
  memory : List Remembered := []
  made : Nat := 0

namespace Checker

/-- What is remembered of a file. -/
def remembered? (c : Checker) (file : String) : Option Remembered :=
  c.memory.find? fun r => r.checked.file == file

/-- Remember a checked file in the place of what was remembered of it. -/
def remember (c : Checker) (checked : CheckedFile) : Checker :=
  { memory := { checked, serial := c.made } ::
      c.memory.filter fun r => r.checked.file != checked.file,
    made := c.made + 1 }

/-- Check a file anew, and remember it if it goes through all phases. -/
def checkAnew (c : Checker) (file source : String) : Logged (Option CheckedFile × Checker) := do
  match ← checkAll file source with
  | some checked => return (some checked, c.remember checked)
  | none => return (none, c)

/-- Check a file, from memory if its text has not changed. -/
def check (c : Checker) (file source : String) : Logged (Option CheckedFile × Checker) :=
  match c.remembered? file with
  | some r => if r.checked.source == source then pure (some r.checked, c)
      else c.checkAnew file source
  | none => c.checkAnew file source

/-- Check a file of a project; a failure is logged. -/
def typeCheck (c : Checker) (project file source : String) :
    Logged (Option CheckedFile × Checker) := do
  let (checked, c) ← c.check file source
  if checked.isNone then
    Logged.note .error s!"Type checking {file} (project {project}) failed"
  return (checked, c)

/-- Check the files of a project one after the other, and collect the results. A file that cannot be
read is logged and counts as failed; what reading is not expected to fail with ends the check. -/
def checkSources {π : Type} (tree : FileTree π) :
    Checker → List String → Logged (Except Failure ProjectResults × Checker)
  | c, [] => return (.ok {}, c)
  | c, file :: rest => do
      match tree.readText (Path.ofString file) with
      | .error f =>
          if f.isReadFailure then
            let text := f.text
            Logged.note .error s!"Could not read {file}: {text}"
            let (results, c) ← checkSources tree c rest
            return (results.map (·.addFailed file), c)
          else return (.error f, c)
      | .ok source =>
          let (checked, c) ← c.check file source
          let (results, c) ← checkSources tree c rest
          return (results.map (·.add file checked), c)

/-- Check all files of a project. -/
def checkProject {π : Type} (c : Checker) (tree : FileTree π) (options : ProjectOptions) :
    Logged (Except Failure ProjectResults × Checker) :=
  checkSources tree c options.sources

end Checker

end Assay.Check
