import Assay.Failure
import Assay.File.Path
import Assay.Text.Utf8

/-!
# File trees

A file tree is a value: files with their bytes, links and directories under one root. Files may also
be programs, which is what plugins are; what a program is does not matter here.

Paths are followed the way the system does: step by step, through links, and `..` from where a link
leads. Paths that are too long and names in a closed directory are refused; other paths can lead
nowhere. A path that is only made absolute and free of links need not exist.
-/

namespace Assay

/-- What stands at a place of a file tree. -/
inductive Entry (π : Type) where
  | file (bytes : List UInt8) (program : Option π)
  | link (target : String)
  | directory

/-- A file tree: the entries by the names that lead to them, the working directory, the files that
may not be written and directories that nothing may be made in, and the directories that are closed:
these may be neither listed nor gone through. The root itself is a directory. -/
structure FileTree (π : Type) where
  entries : List (List String × Entry π) := []
  workingDirectory : Path := { root := .slash }
  protectedPlaces : List (List String) := []
  closedPlaces : List (List String) := []

/-- Why a path leads nowhere. -/
inductive PathFault where
  | missing
  | notDirectory
  | tooManyLinks
  | nulCharacter
  | tooLong
  | denied
  deriving DecidableEq, Repr

/-- Whether a path with a fault counts as one that nothing is at. Otherwise nobody knows what is
there. -/
def PathFault.isAbsence : PathFault → Bool
  | missing | notDirectory | tooManyLinks | nulCharacter => true
  | tooLong | denied => false

/-- The most bytes that the system takes for a name. -/
def longestName : Nat := 255

/-- The most bytes that the system takes for a path. -/
def longestPath : Nat := 4095

/-- Whether a path has more bytes than the system takes. -/
def Path.isTooLong (p : Path) : Bool := longestPath < p.toString.utf8ByteSize

namespace FileTree

variable {π : Type}

/-- The entry at a place. -/
def entry? (t : FileTree π) (place : List String) : Option (Entry π) :=
  if place.isEmpty then some .directory
  else (t.entries.find? fun e => e.1 = place).map (·.2)

/-- Whether a directory may be neither listed nor gone through. -/
def isClosed (t : FileTree π) (place : List String) : Bool := t.closedPlaces.contains place

/-- The names in a directory, in the order in which they were made. -/
def names (t : FileTree π) (place : List String) : List String :=
  t.entries.filterMap fun e =>
    match e.1.getLast? with
    | some name => if e.1.dropLast = place then some name else none
    | none => none

/-- A path from the root. -/
def absolute (t : FileTree π) (p : Path) : Path := t.workingDirectory.join p

/-- The most links that one path may lead through. -/
def maxLinks : Nat := 40

/-- Follow names from a place; `links` counts how many links may still be followed. -/
def follow (t : FileTree π) : Nat → Nat → List String → List String →
    Except PathFault (List String)
  | 0, _, _, _ => .error .tooManyLinks
  | _ + 1, _, place, [] => .ok place
  | fuel + 1, links, place, name :: rest =>
      match t.entry? place with
      | some .directory =>
          if t.isClosed place then .error .denied
          else if name == ".." then follow t fuel links place.dropLast rest
          else if longestName < name.utf8ByteSize then .error .tooLong
          else
            let next := place ++ [name]
            match t.entry? next with
            | none => .error .missing
            | some (.link target) => match links with
              | 0 => .error .tooManyLinks
              | links + 1 =>
                  let p := Path.ofString target
                  follow t fuel links (if p.isAbsolute then [] else place) (p.parts ++ rest)
            | some _ => follow t fuel links next rest
      | _ => .error .notDirectory

/-- The place that a path leads to. -/
def locate (t : FileTree π) (p : Path) : Except PathFault (List String × Entry π) := do
  if p.parts.any fun part => part.toList.contains '\x00' then throw .nulCharacter
  if p.isTooLong then throw .tooLong
  let parts := (t.absolute p).parts
  let longest := (t.entries.map fun e => match e.2 with
    | .link target => target.length
    | _ => 0).foldl max 0
  let place ← t.follow (parts.length + (maxLinks + 1) * (longest + 2) + 1) maxLinks [] parts
  match t.entry? place with
  | some e => return (place, e)
  | none => throw .missing

/-- The program of the file that a path leads to. -/
def program? (t : FileTree π) (p : Path) : Option π :=
  match t.locate p with
  | .ok (_, .file _ program) => program
  | _ => none

/-! ## Looking -/

/-- The failure to use what is protected or closed. -/
def deniedFault (path : String) : Failure :=
  .system "PermissionError" 13 "Permission denied" path

/-- The failure of the system for a path that leads nowhere. -/
def faultOf (f : PathFault) (path : String) : Failure :=
  match f with
  | .missing => .system "FileNotFoundError" 2 "No such file or directory" path
  | .notDirectory => .system "NotADirectoryError" 20 "Not a directory" path
  | .tooManyLinks => .system "OSError" 40 "Too many levels of symbolic links" path
  | .nulCharacter => .value "embedded null byte"
  | .tooLong => .system "OSError" 36 "File name too long" path
  | .denied => deniedFault path

/-- What a path leads to, if to anything. The system can refuse to look. -/
def look (t : FileTree π) (p : Path) : Except Failure (Option (Entry π)) :=
  match t.locate p with
  | .ok (_, e) => .ok (some e)
  | .error f => if f.isAbsence then .ok none else .error (faultOf f p.toString)

/-- Whether a path leads to something. -/
def exists? (t : FileTree π) (p : Path) : Except Failure Bool := return (← t.look p).isSome

/-- Whether a path leads to a file. -/
def isFile (t : FileTree π) (p : Path) : Except Failure Bool := do
  match ← t.look p with
  | some (.file ..) => return true
  | _ => return false

/-- Whether a path leads to a directory. -/
def isDirectory (t : FileTree π) (p : Path) : Except Failure Bool := do
  match ← t.look p with
  | some .directory => return true
  | _ => return false

/-! ## Resolving -/

/-- Whether the system shows nothing at a place: its path is too long, or leads through a closed
directory. -/
def isHidden (t : FileTree π) (place : List String) : Bool :=
  Path.isTooLong { root := .slash, parts := place } ||
    t.closedPlaces.any fun closed => closed.isPrefixOf place && closed.length < place.length

/-- What the system shows at a place. A link is not followed. -/
def shown? (t : FileTree π) (place : List String) : Option (Entry π) :=
  if t.isHidden place then none else t.entry? place

/-- A link that was met on the way: where it leads, or that it is still being followed. -/
abbrev Trail := List (List String × Option (List String))

/-- Resolve names from a place through links. The names need not exist. If a link leads to itself the
rest stays as it is, and the answer says so. -/
def resolveNames (t : FileTree π) : Nat → Trail → List String → List String →
    (List String × Bool × Trail)
  | 0, seen, place, rest => (place ++ rest, false, seen)
  | _ + 1, seen, place, [] => (place, true, seen)
  | fuel + 1, seen, place, name :: rest =>
      if name == ".." then resolveNames t fuel seen place.dropLast rest
      else
        let next := place ++ [name]
        match t.shown? next with
        | some (.link target) =>
            match seen.find? fun s => s.1 = next with
            | some (_, some known) => resolveNames t fuel seen known rest
            | some (_, none) => (next ++ rest, false, seen)
            | none =>
                let p := Path.ofString target
                let (found, ok, seen) := resolveNames t fuel ((next, none) :: seen)
                  (if p.isAbsolute then [] else place) p.parts
                if ok then
                  resolveNames t fuel ((next, some found) :: seen) found rest
                else (found ++ rest, false, seen)
        | _ => resolveNames t fuel seen next rest

/-- Drop `..` and the names before them without looking at the tree. -/
def lexical (parts : List String) : List String :=
  parts.foldl (fun done name => if name == ".." then done.dropLast else done ++ [name]) []

/-- A path from the root without links and `..`. A path that leads through too many links is
refused. -/
def resolve (t : FileTree π) (p : Path) : Except Failure Path :=
  if p.parts.any fun part => part.toList.contains '\x00' then
    .error (.value "embedded null byte")
  else
    let parts := (t.absolute p).parts
    let bound := (t.entries.map fun e => match e.2 with
      | .link target => target.length + 2
      | _ => 1).foldl (· + ·) (parts.length + 2)
    let (found, _, _) := t.resolveNames (bound * 2) [] [] parts
    let resolved : Path := { root := .slash, parts := lexical found }
    match t.locate resolved with
    | .error .tooManyLinks =>
        .error (.of "RuntimeError" ("Symlink loop from " ++ Text.quoted resolved.toString))
    | _ => .ok resolved

/-! ## Reading and writing -/

/-- The failure to use a directory as a file. -/
def isDirectoryFault (path : String) : Failure :=
  .system "IsADirectoryError" 21 "Is a directory" path

/-- The bytes of a file. -/
def readBytes (t : FileTree π) (p : Path) : Except Failure (List UInt8) :=
  match t.locate p with
  | .ok (_, .file bytes _) => .ok bytes
  | .ok _ => .error (isDirectoryFault p.toString)
  | .error f => .error (faultOf f p.toString)

/-- Make all line ends line feeds. -/
def unifyLineEnds : List Char → List Char
  | [] => []
  | '\r' :: '\n' :: rest => '\n' :: unifyLineEnds rest
  | '\r' :: rest => '\n' :: unifyLineEnds rest
  | c :: rest => c :: unifyLineEnds rest

/-- The failure to decode bytes. -/
def decodeFault (f : Text.Utf8.Fault) : Failure :=
  { kind := "UnicodeDecodeError", text := f.message, shown := "UnicodeDecodeError()" }

/-- The text of a file. -/
def readText (t : FileTree π) (p : Path) : Except Failure String := do
  let bytes ← t.readBytes p
  match Text.Utf8.decode bytes with
  | .ok cs => return String.ofList (unifyLineEnds cs)
  | .error f => throw (decodeFault f)

/-- Put an entry in a place; an old one is replaced. -/
def put (t : FileTree π) (place : List String) (e : Entry π) : FileTree π :=
  if t.entries.any fun old => old.1 = place then
    { t with entries := t.entries.map fun old => if old.1 = place then (place, e) else old }
  else { t with entries := t.entries ++ [(place, e)] }

/-- Make directories for names from a place on, as far as there are none. -/
def putDirectories (t : FileTree π) : List String → List String → FileTree π
  | _, [] => t
  | place, name :: rest =>
      let next := place ++ [name]
      let t := if (t.entry? next).isNone then t.put next .directory else t
      putDirectories t next rest

/-- Make a directory and those around it, as far as that goes. What is in the way is named in the
failure; once a directory was made, a name that is too long is only reached by itself. -/
def makeDirectories (t : FileTree π) (made : Bool) :
    List String → List String → Except Failure Unit × FileTree π
  | _, [] => (.ok (), t)
  | place, name :: rest =>
      let next := place ++ [name]
      let whole := ({ root := .slash, parts := next ++ rest } : Path).toString
      let reached := ({ root := .slash, parts := next } : Path).toString
      if t.isClosed place then (.error (faultOf .denied whole), t)
      else if longestName < name.utf8ByteSize then
        (.error (faultOf .tooLong (if made then reached else whole)), t)
      else match t.entry? next with
      | none =>
          if t.protectedPlaces.contains place then (.error (deniedFault reached), t)
          else makeDirectories (t.put next .directory) true next rest
      | some .directory => makeDirectories t made next rest
      | some _ =>
          if rest.isEmpty then (.error (.system "FileExistsError" 17 "File exists" whole), t)
          else (.error (.system "NotADirectoryError" 20 "Not a directory" whole), t)

/-- Make the directory at a path from the root and those around it, as far as that goes. -/
def makeDirectory (t : FileTree π) (p : Path) : Except Failure Unit × FileTree π :=
  if p.isTooLong then (.error (faultOf .tooLong p.toString), t)
  else t.makeDirectories false [] p.parts

/-- Write a text to a file at a resolved path whose directory exists. -/
def writeText (t : FileTree π) (p : Path) (s : String) : Except Failure (FileTree π) :=
  match t.locate p with
  | .ok (place, .file _ _) =>
      if t.protectedPlaces.contains place then .error (deniedFault p.toString)
      else .ok (t.put place (.file (Text.Utf8.encode s) none))
  | .ok _ => .error (isDirectoryFault p.toString)
  | .error .missing =>
      if t.protectedPlaces.contains p.parent.parts then .error (deniedFault p.toString)
      else .ok (t.put p.parts (.file (Text.Utf8.encode s) none))
  | .error f => .error (faultOf f p.toString)

end FileTree

end Assay
