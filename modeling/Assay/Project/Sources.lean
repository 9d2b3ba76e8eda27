import Assay.Check.Project
import Assay.Project.Discovery
import Assay.Text.Blank

/-!
# Projects

A project is a directory, a project file or a single source file; or it is a list of source files.
-/

namespace Assay

open Check

/-- The options of the project at a path, which is taken from a directory if it is relative. -/
def loadProject {π : Type} (tree : FileTree π) (path : String) (directory : Path) :
    Except Failure ProjectOptions := do
  let p ← tree.resolve (directory.join (Path.ofString path))
  let refused (reason : String) : Failure := .project s!"Failed to load project '{path}': {reason}"
  if !(← tree.exists? p) then
    throw (.project s!"Invalid project argument. Path does not exist: '{path}'")
  let (root, files) ←
    if ← tree.isFile p then
      if p.name = "pyproject.toml" then do
        let found ← tree.sourceFiles p.parent [] []
        pure (p.parent, found)
      else if isSourceFile p then pure (p.parent, [p])
      else throw (refused "not a Python project")
    else do
      let found ← tree.sourceFiles p [] []
      pure (p, found)
  if files.isEmpty then throw (refused "no Python source files found")
  return { name := p.toString, root := root.toString, sources := files.map Path.toString }

/-- Whether a path has the name of a source file and leads to a file. -/
def leadsToSource {π : Type} (tree : FileTree π) (p : Path) : Except Failure Bool :=
  if isSourceFile p then tree.isFile p else return false

/-- The source files of a list. Entries that are none are logged and dropped. -/
def keepSources {π : Type} (tree : FileTree π) (directory : Path) :
    List String → Attempt (List String)
  | [] => return []
  | entry :: rest => do
      let p := directory.join (Path.ofString entry)
      if ← Attempt.ofExcept (leadsToSource tree p) then
        let resolved ← Attempt.ofExcept (tree.resolve p)
        return resolved.toString :: (← keepSources tree directory rest)
      else
        Attempt.note .debug s!"Dropping source argument {entry}"
        keepSources tree directory rest

/-- The options of a project that is a list of source files. Blank entries do not count. -/
def projectOfSources {π : Type} (tree : FileTree π) (sources : List String) (directory : Path) :
    Attempt ProjectOptions := do
  let sources := sources.filter fun s => !Text.isBlankText s
  if sources.isEmpty then throw (.project "Empty source list was passed!")
  let files ← keepSources tree directory sources
  if files.isEmpty then
    throw (.project "None of the given sources is an existing Python file")
  return { name := "Project", root := directory.toString, sources := files }

end Assay
