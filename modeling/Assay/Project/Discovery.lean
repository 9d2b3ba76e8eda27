import Assay.File.Tree
import Assay.Project.Glob
import Assay.Value.Order

/-!
# Finding files

Files are found under a directory by patterns of names: each part of a pattern takes one step into
the tree, and two stars take any number of steps through directories that are no links. Plugins are
told by their names. Directories with names that are skipped, below the one that is searched, are
left out. What the system refuses to look at ends the search.
-/

namespace Assay

/-- The names of directories that are never searched. -/
def skippedDirectories : List String :=
  [".git", ".github", ".venv", "venv", "__pycache__", "node_modules", "dist", "build", ".tox",
    ".mypy_cache", ".pytest_cache", ".ruff_cache"]

/-- Whether a path has the name of a plugin: a source file with the word analyzer in its name. -/
def isPluginFile (p : Path) : Bool :=
  p.suffix = ".py" && Text.contains p.stem.toLower "analyzer"

/-- Whether a path has the name of a source file. -/
def isSourceFile (p : Path) : Bool := p.suffix = ".py" || p.suffix = ".pyi"

/-- A part of a pattern of paths. -/
inductive PathStep where
  | anyDepth
  | up
  | glob (pattern : String)
  | name (name : String)
  | stay
  deriving DecidableEq, Repr

namespace PathStep

/-- Read a part of a pattern. -/
def ofString (part : String) : Except Failure PathStep :=
  if part = "" then .ok .stay
  else if part = "**" then .ok .anyDepth
  else if part = ".." then .ok .up
  else if Text.contains part "**" then
    .error (.value "Invalid pattern: '**' can only be an entire path component")
  else if part.toList.any fun c => c = '*' || c = '?' || c = '[' then .ok (.glob part)
  else .ok (.name part)

/-- Read a pattern. It must not be empty or begin at the root. -/
def parse (pattern : String) : Except Failure (List PathStep) := do
  if pattern = "" then throw (.value "Unacceptable pattern: ''")
  let p := Path.ofString pattern
  if p.isAbsolute then throw (.of "NotImplementedError" "Non-relative patterns are unsupported")
  let parts := p.parts ++ (if pattern.endsWith "/" then [""] else [])
  if parts.isEmpty then throw (.of "IndexError" "tuple index out of range")
  if parts = [""] then
    throw (.of "AttributeError" "'_TerminatingSelector' object has no attribute 'select_from'")
  parts.mapM ofString

end PathStep

namespace FileTree

variable {π : Type}

/-! ## Searching

A search comes to one path after the other. A failure ends it; what it came to before counts. A
directory that is closed has nothing in it for a search.
-/

/-- What a search does at a failure: it ends, but goes on elsewhere if it was only denied
something. -/
def stopAt {α : Type} (f : Failure) : List (Except Failure α) :=
  if f.kind = "PermissionError" then [] else [.error f]

/-- The names in the directory that a path leads to. -/
def list (t : FileTree π) (p : Path) : Except Failure (List String) :=
  match t.locate p with
  | .ok (place, .directory) =>
      if t.isClosed place then .error (deniedFault p.toString) else .ok (t.names place)
  | .ok _ => .error (faultOf .notDirectory p.toString)
  | .error f => .error (faultOf f p.toString)

/-- What stands under a name in the directory in front of it. -/
def ownEntry? (t : FileTree π) (p : Path) : Option (Entry π) :=
  match t.locate p.parent with
  | .ok (place, .directory) => t.entry? (place ++ [p.name])
  | _ => none

/-- Whether a path leads to a directory, and not through a link at its end. -/
def isOwnDirectory (t : FileTree π) (p : Path) : Bool :=
  match t.ownEntry? p with
  | some .directory => true
  | _ => false

/-- Whether a search can go on from an entry of a directory. Only a link has to be followed to tell
that. -/
def leadsOn (t : FileTree π) (p : Path) : Except Failure Bool :=
  match t.ownEntry? p with
  | some .directory => .ok true
  | some (.link _) => t.isDirectory p
  | _ => .ok false

/-- A directory and all directories below it that no link leads to. -/
def directories (t : FileTree π) : Nat → Path → List (Except Failure Path)
  | 0, p => [.ok p]
  | depth + 1, p =>
      .ok p :: match t.list p with
        | .error f => stopAt f
        | .ok names => (names.map p.child).flatMap fun child =>
            if t.isOwnDirectory child then t.directories depth child else []

/-- The greatest depth of a tree. -/
def depth (t : FileTree π) : Nat := (t.entries.map fun e => e.1.length).foldl max 0

/-- The names in a directory that a search can go on from. -/
def through (t : FileTree π) (p : Path) : List String → List (Except Failure String)
  | [] => []
  | name :: rest =>
      match t.leadsOn (p.child name) with
      | .ok true => .ok name :: t.through p rest
      | .ok false => t.through p rest
      | .error f => stopAt f

/-- The paths that a pattern leads to from a path. -/
def select (t : FileTree π) : List PathStep → Path → List (Except Failure Path)
  | [], p => [.ok p]
  | .stay :: _, p => [.ok p]
  | .up :: rest, p => t.select rest (p.child "..")
  | .name name :: rest, p =>
      let child := p.child name
      match (if rest.isEmpty then t.exists? child else t.isDirectory child) with
      | .ok true => t.select rest child
      | .ok false => []
      | .error f => stopAt f
  | .glob pattern :: rest, p =>
      match t.list p with
      | .error f => stopAt f
      | .ok names =>
          (if rest.isEmpty then names.map .ok else t.through p names).flatMap fun
            | .ok name => if Glob.accepts pattern name then t.select rest (p.child name) else []
            | .error f => [.error f]
  | .anyDepth :: rest, p => (t.directories (t.depth + 1) p).flatMap fun
      | .ok q => t.select rest q
      | .error f => [.error f]

/-- The paths that a pattern leads to from a directory. -/
def glob (t : FileTree π) (root : Path) (pattern : String) : List (Except Failure Path) :=
  match PathStep.parse pattern with
  | .error f => [.error f]
  | .ok steps => match t.isDirectory root with
    | .ok true => t.select steps root
    | .ok false => []
    | .error f => [.error f]

/-! ## Files -/

/-- The file that a search came to, resolved. It may be skipped before it is looked at, and be
unwanted after. -/
def fileAt (t : FileTree π) (skips wants : Path → Bool) (found : Except Failure Path) :
    Except Failure (Option Path) := do
  let p ← found
  if skips p then return none
  else if !(← t.isFile p) then return none
  else if wants p then return some (← t.resolve p)
  else return none

/-- The files that a search comes to. Repeated ones are left out, and the others sorted name by
name. -/
def filesIn (t : FileTree π) (skips wants : Path → Bool) (found : List (Except Failure Path)) :
    Except Failure (List Path) := do
  let files ← found.mapM (t.fileAt skips wants)
  return Value.sortBy Path.lt (files.filterMap id).eraseDups

/-- The names of the directories between a root and a file. -/
def directoriesBelow (root file : Path) : List String := (file.parts.drop root.parts.length).dropLast

/-- The plugins under a directory, or a single plugin. Directories with a point at the front of
their name are skipped as well. -/
def pluginFiles (t : FileTree π) (root : Path) : Except Failure (List Path) := do
  if ← t.isFile root then
    if isPluginFile root then return [← t.resolve root] else return []
  else if !(← t.isDirectory root) then return []
  else
    let skips (p : Path) : Bool :=
      (directoriesBelow root p).any fun d => skippedDirectories.contains d || d.startsWith "."
    t.filesIn skips isPluginFile (t.glob root "**/*.py")

/-- The source files under a directory that some pattern leads to. More directories can be
skipped. -/
def sourceFiles (t : FileTree π) (root : Path) (patterns skipped : List String) :
    Except Failure (List Path) :=
  let patterns := if patterns.isEmpty then ["**/*.py"] else patterns
  let skips (p : Path) : Bool :=
    (directoriesBelow root p).any fun d => (skippedDirectories ++ skipped).contains d
  t.filesIn skips (fun _ => true) (patterns.flatMap (t.glob root))

end FileTree

end Assay
