import Assay.Command.Run
import Assay.Json.Reader
import Assay.Plugin.Description

/-!
# The command line

The outermost layer. It reads the files under the working directory, and those that the arguments
name elsewhere, into a file tree, prints what the command prints, and writes the files that the
command leaves. What the command does is decided by `Command.run`.

A plugin is a file whose text is a JSON object that describes a program.
-/

namespace Assay.Disk

open Plugin

/-- The most names that a path of the system can have: it has at most 4096 bytes, and every name
takes a byte and a slash. -/
def maxDepth : Nat := 2048

/-- The entry of a file with some bytes. -/
def fileEntry (bytes : List UInt8) : Entry Program :=
  let description := match Text.Utf8.decode bytes with
    | .ok cs => Json.parse? (String.ofList cs)
    | .error _ => none
  .file bytes (match description with
    | some (.object fields) => some (.ofJson (.object fields))
    | _ => none)

/-- What stands at a path, and below it if it is a directory. A link leads to where the system
resolves it. What cannot be read is left out. -/
def read : Nat → Path → IO (List (List String × Entry Program))
  | 0, _ => return []
  | fuel + 1, path => do
      let found : IO (List (List String × Entry Program)) := do
        let name := path.toString
        let here : IO.FS.DirEntry := { root := path.parent.toString, fileName := path.name }
        match (← here.path.symlinkMetadata).type with
        | .dir =>
            let inner ← (← here.path.readDir).toList.mapM fun e =>
              read fuel (path.child e.fileName)
            return (path.parts, .directory) :: inner.flatten
        | .symlink =>
            let target ← IO.FS.realPath name
            return [(path.parts, .link target.toString)]
        | .file => return [(path.parts, fileEntry (← IO.FS.readBinFile name).toList)]
        | .other => return []
      try found catch _ => return []

/-- The paths that arguments may name, from the root on. -/
def namedPaths (tree : FileTree Program) (arguments : List String) : List Path :=
  let values := arguments.flatMap fun a => [a, "=".intercalate ((a.splitOn "=").drop 1)]
  (values.filter (· ≠ "")).filterMap fun v => (tree.resolve (Path.ofString v)).toOption

/-- Put what was read in a tree, with the directories around it. -/
def install (tree : FileTree Program) (path : Path) (found : List (List String × Entry Program)) :
    FileTree Program :=
  let fresh := found.filter fun e => (tree.entry? e.1).isNone
  let tree := tree.putDirectories [] path.parts.dropLast
  { tree with entries := tree.entries ++ fresh }

/-- The files that a command may look at. -/
def readTree (arguments : List String) : IO (FileTree Program) := do
  let working := Path.ofString (← IO.currentDir).toString
  let empty : FileTree Program := { workingDirectory := working }
  let tree := install empty working (← read maxDepth working)
  let mut full := tree
  for path in namedPaths tree arguments do
    if (full.entry? path.parts).isNone then full := install full path (← read maxDepth path)
  return full

/-- Write the files and directories that are new or different in a tree. -/
def writeTree (old new : FileTree Program) : IO Unit := do
  for (place, entry) in new.entries do
    let name := ({ root := .slash, parts := place } : Path).toString
    match entry, old.entry? place with
    | .directory, none => IO.FS.createDirAll name
    | .file bytes _, some (.file before _) =>
        if bytes ≠ before then IO.FS.writeBinFile name (ByteArray.mk bytes.toArray)
    | .file bytes _, _ => IO.FS.writeBinFile name (ByteArray.mk bytes.toArray)
    | _, _ => pure ()

end Assay.Disk

/-- Run the command on the files of the system. -/
def main (arguments : List String) : IO UInt32 := do
  let tree ← Assay.Disk.readTree arguments
  let outcome := Assay.Command.run {} tree arguments
  IO.print outcome.output
  IO.eprint outcome.errors
  Assay.Disk.writeTree tree outcome.tree
  match outcome.ending with
  | .exit code => return code.number.toUInt32
  | .stopped code => return code.toUInt32
  | .failed failure => do
      IO.eprintln failure.attached
      return 1
