import Assay.File.Tree
import Assay.Message.Policy
import Assay.Value.Canonical
import Assay.Value.Items
import Assay.Yaml.Document

/-!
# Configuration

A configuration comes from a file and is overridden field by field. Files are checked: they hold
known keys only, and lists hold texts. Overrides are not, so that a field can hold any value.
-/

namespace Assay

/-- The fields of a configuration. -/
inductive ConfigKey where
  | analyzersPath
  | excludeAnalyzers
  | ignoreFiles
  | treatAs (severity : Severity)
  | report
  | codeRoot
  | verbose
  | source
  deriving DecidableEq, Repr

namespace ConfigKey

/-- All fields. -/
def all : List ConfigKey :=
  [.analyzersPath, .excludeAnalyzers, .ignoreFiles, .treatAs .info, .treatAs .hint,
    .treatAs .warning, .treatAs .error, .report, .codeRoot, .verbose, .source]

/-- The name of a field. -/
def name : ConfigKey → String
  | analyzersPath => "analyzers_path"
  | excludeAnalyzers => "exclude_analyzers"
  | ignoreFiles => "ignore_files"
  | treatAs severity => "treat_as_" ++ severity.word
  | report => "report"
  | codeRoot => "code_root"
  | verbose => "verbose"
  | source => "source"

/-- Whether a field holds a list of texts. -/
def isList : ConfigKey → Bool
  | analyzersPath | excludeAnalyzers | ignoreFiles | treatAs _ => true
  | _ => false

/-- The value of a field that is not given. -/
def default (key : ConfigKey) : Value :=
  if key.isList then .tuple [] else if key = .verbose then .bool false else .none

/-- The field with a name. -/
def ofName? (s : String) : Option ConfigKey := all.find? fun key => key.name == s

end ConfigKey

/-- A configuration: a value for each field. -/
structure Config where
  get : ConfigKey → Value := ConfigKey.default

namespace Config

/-- The configuration with another value in a field. -/
def set (c : Config) (key : ConfigKey) (v : Value) : Config where
  get k := if k = key then v else c.get k

@[simp] theorem get_set_self (c : Config) (key : ConfigKey) (v : Value) :
    (c.set key v).get key = v := by
  simp [set]

@[simp] theorem get_set_of_ne (c : Config) {key k : ConfigKey} (v : Value) (h : k ≠ key) :
    (c.set key v).get k = c.get k := by
  simp [set, h]

/-- A configuration as a record. -/
def toValue (c : Config) : Value :=
  .recordOf "HostConfig" (ConfigKey.all.map fun key => (key.name, c.get key))

/-- Whether two configurations are the same; where they come from does not matter. -/
def same (c d : Config) : Bool :=
  ConfigKey.all.all fun key => key = .source || (c.get key).same (d.get key)

/-! ## Loading -/

/-- Whether a key of a file is known: a name of a field except the source. -/
def isKnown (key : Value) : Bool :=
  match key.text?.bind ConfigKey.ofName? with
  | some k => k ≠ .source
  | none => false

/-- The failure for keys that are not known. -/
def unknownKeys (keys : List Value) (source : Value) : Except Failure Failure := do
  match Value.sorted keys with
  | .error message => throw (.type message)
  | .ok sorted =>
      let listed ← Value.joinTexts sorted
      let place := if source.isTrue then " in " ++ source.str else ""
      return .config (s!"Unknown configuration key(s){place}: {listed}")

/-- The texts in a value: a single one, or a list of them. -/
def textsIn? (v : Value) : Option (List Value) :=
  match v with
  | .list vs => if vs.all fun v => v.text?.isSome then some vs else none
  | v => if v.text?.isSome then some [v] else none

/-- The value that a field takes from a file, where a key names it. A single text counts as a list of
one. -/
def valueFor (key : ConfigKey) (named v : Value) : Except Failure (Option Value) :=
  if key.isList then
    match textsIn? v with
    | some vs => .ok (some (.tuple vs))
    | none =>
        let name := named.shown
        .error (.config (s!"Configuration key {name} must be a list of strings"))
  else if key = .verbose then .ok (some (.bool v.isTrue))
  else match v with
    | .none => .ok none
    | v => v.str?.map fun s => some (.text s)

/-- Take the entries of a file over into a configuration. -/
def assign (c : Config) : List (Value × Value) → Except Failure Config
  | [] => .ok c
  | (k, v) :: rest =>
      match k.text?.bind ConfigKey.ofName? with
      | none => c.assign rest
      | some key => do
          match ← valueFor key k v with
          | some v => (c.set key v).assign rest
          | none => c.assign rest

/-- The configuration of a mapping. -/
def ofEntries (entries : List (Value × Value)) (source : Value) : Except Failure Config := do
  let unknown := (entries.map (·.1)).filter fun k => !isKnown k
  if unknown.isEmpty then return (← ({} : Config).assign entries).set .source source
  else throw (← unknownKeys unknown source)

/-- The configuration of a file. -/
def ofFile {π : Type} (tree : FileTree π) (path : Path) : Except Failure Config := do
  let p := path.toString
  match tree.openText path with
  | .error f =>
      if f.isSystemFailure then
        let text := f.text
        throw (.config s!"Could not read configuration file {p}: {text}")
      else throw f
  | .ok file =>
      match Yaml.load file with
      | .error .invalid => throw (.config s!"Invalid YAML in {p}")
      | .error (.failed f) => throw f
      | .ok v =>
          match if v.isTrue then v else .mapping [] with
          | .mapping entries => ofEntries entries (.text p)
          | _ => throw (.config s!"Configuration file {p} must contain a mapping")

/-- The names that configuration files have. -/
def fileNames : List String := [".analyzer-host.yaml", "analyzer-host.yaml"]

/-- The first of some paths that leads to a file. -/
def firstFile {π : Type} (tree : FileTree π) : List Path → Except Failure (Option Path)
  | [] => return none
  | p :: rest => do if ← tree.isFile p then return some p else firstFile tree rest

/-- The configuration of the first file in a directory that has one of the names; without one every
field has its default. -/
def discover {π : Type} (tree : FileTree π) (directory : Path) : Except Failure Config := do
  match ← firstFile tree (fileNames.map directory.child) with
  | some path => ofFile tree path
  | none => return {}

/-! ## Overriding -/

/-- Whether an override leaves the field as it is: it is nothing, or an empty list. -/
def isVoid : Value → Bool
  | .none | .list [] | .tuple [] => true
  | _ => false

/-- The value that an override gives a field. -/
def override : Value → Value
  | .list vs => .tuple vs
  | v => v

/-- The failure for an override of something that is no field. -/
def unexpected (name : String) : Failure :=
  .type ("HostConfig.__init__() got an unexpected keyword argument " ++ Text.quoted name)

/-- Override fields one after the other. -/
def overrideAll (c : Config) : List (String × Value) → Except Failure Config
  | [] => .ok c
  | (name, v) :: rest =>
      if isVoid v then c.overrideAll rest
      else match ConfigKey.ofName? name with
        | some key => (c.set key (override v)).overrideAll rest
        | none => .error (unexpected name)

/-- The name that the configuration itself has among what it is overridden by. -/
def ownName : String := "self"

/-- The failure for an override with the name of the configuration itself. -/
def ownNameTaken : Failure :=
  .type ("HostConfig.merge() got multiple values for argument " ++ Text.quoted ownName)

/-- Override fields by their names. -/
def merge (c : Config) (overrides : List (String × Value)) : Except Failure Config :=
  if overrides.any fun o => o.1 = ownName then .error ownNameTaken else c.overrideAll overrides

/-! ## Using -/

/-- The texts among the items of a field. -/
def texts (c : Config) (key : ConfigKey) : Except Failure (List String) := do
  return (← (c.get key).keys).filterMap Value.text?

/-- The severities that codes are given. -/
def severityMappings (c : Config) : Except Failure SeverityMappings := do
  let info ← (c.get (.treatAs .info)).keys
  let hint ← (c.get (.treatAs .hint)).keys
  let warning ← (c.get (.treatAs .warning)).keys
  let error ← (c.get (.treatAs .error)).keys
  return .ofLists info hint warning error

/-- Where analyzers are looked for if nothing is configured. -/
def defaultAnalyzersPath : String := "packages/analyzers"

/-- A path among the items of a field. A text is taken as it is written. -/
def pathOf : Value → Except Failure Path
  | .path p => .ok p
  | v =>
      if v.text?.isSome then .ok (Path.ofString v.str)
      else .error (.type ("expected str, bytes or os.PathLike object, not " ++ v.typeName))

/-- The places where analyzers are looked for. Relative paths start at a directory and are resolved;
others stay as they are. -/
def analyzerPaths {π : Type} (c : Config) (tree : FileTree π) (directory : Path) :
    Except Failure (List Path) := do
  let field := c.get .analyzersPath
  let items ← if field.isTrue then field.items else pure [.text defaultAnalyzersPath]
  items.mapM fun v => do
    let p ← pathOf v
    if p.isAbsolute then return p else tree.resolve (directory.join p)

end Config

end Assay
