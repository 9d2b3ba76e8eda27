import Assay.Plugin.Loading
import Assay.Plugin.Runner
import Assay.Project.Discovery

/-!
# The registry of analyzers

A registry holds the analyzers for one kind of host by their names. A later analyzer replaces an
earlier one of the same name in its place. Loading plugins goes on after ordinary exceptions: a
plugin that cannot be loaded and a member that cannot be looked at are logged and skipped.
-/

namespace Assay.Plugin

open Check

/-- The analyzers for a kind of host, in the order in which their names were registered first. Some
names are excluded. -/
structure Registry where
  kind : HostKind := .cli
  excluded : List Value := []
  entries : List (Value × Descriptor) := []

namespace Registry

/-- A registry without analyzers. The excluded names must be fit to be keys. -/
def empty (kind : HostKind) (excluded : Value := .tuple []) : Except Failure Registry := do
  return { kind, excluded := ← excluded.keys }

/-! ## Looking up -/

/-- The registered analyzers. -/
def descriptors (r : Registry) : List Descriptor := r.entries.map (·.2)

/-- The analyzer of a name. -/
def find? (r : Registry) (name : Value) : Option Descriptor :=
  (r.entries.find? fun e => e.1.same name).map (·.2)

/-- The names of the analyzers in order. -/
def names (r : Registry) : Except Failure (List Value) :=
  (Value.sorted (r.entries.map (·.1))).mapError Failure.type

/-- Whether there is an analyzer of a name. -/
def contains (r : Registry) (name : Value) : Except Failure Bool := do
  name.requireKey
  return (r.find? name).isSome

/-! ## Registering -/

/-- Why an analyzer is not registered. -/
inductive Refusal where
  | otherHost
  | excluded
  | signature
  deriving DecidableEq, Repr

/-- Whether an analyzer is refused. -/
def refusal? (r : Registry) (f : Function) (m : Marker) : Except Failure (Option Refusal) := do
  if m.kind ≠ r.kind then return some .otherHost
  m.name.requireSearchable
  if r.excluded.any fun name => name.same m.name then return some .excluded
  if !(← f.accepts r.kind) then return some .signature
  m.name.requireKey
  return none

/-- The log entry for a refusal. -/
def refusalText (r : Registry) (m : Marker) : Refusal → String
  | .otherHost => "Skipping " ++ m.kind.word ++ " analyzer " ++ m.name.shown ++ " (host kind is " ++
      r.kind.word ++ ")"
  | .excluded => "Excluding analyzer " ++ m.name.shown
  | .signature => "Skipping " ++ m.name.shown ++ ": signature does not accept a single " ++
      r.kind.contextName

/-- How the source of an analyzer is called in the log. -/
def sourceText (source : Option String) : String :=
  match source with
  | some s => if s = "" then "<direct>" else s
  | none => "<direct>"

/-- The entry of a registry for a function with its marker. -/
def descriptorOf (f : Function) (m : Marker) (source : Option String) : Descriptor :=
  { name := m.name, kind := m.kind, source, shortDescription := m.shortDescription
    helpUri := m.helpUri, call := f.call }

/-- Accept a function as an analyzer. Replacing another one is worth a warning, which is written
before it turns out whether the function can be wrapped. -/
def accept (r : Registry) (f : Function) (m : Marker) (source : Option String) :
    Logged (Except Failure Unit × Registry) := do
  let origin := sourceText source
  match r.find? m.name with
  | some previous =>
      Logged.note .warning ("Analyzer " ++ m.name.shown ++ " from " ++ origin ++
        " replaces the one registered from " ++ sourceText previous.source)
  | none => pure ()
  match f.wrapping with
  | .error failure => return (.error failure, r)
  | .ok () =>
      Logged.note .debug ("Registered analyzer " ++ m.name.shown ++ " from " ++ origin)
      return (.ok (), { r with entries := putByName (descriptorOf f m source) r.entries })

/-- Register a function by its marker unless it is refused. -/
def registerMarked (r : Registry) (f : Function) (m : Marker) (source : Option String) :
    Logged (Except Failure Bool × Registry) := do
  match r.refusal? f m with
  | .error failure => return (.error failure, r)
  | .ok (some refusal) =>
      Logged.note .debug (r.refusalText m refusal)
      return (.ok false, r)
  | .ok none =>
      let (outcome, r) ← r.accept f m source
      return (outcome.map fun _ => true, r)

/-- Register an object if it has a marker. -/
def registerIfMarked (r : Registry) (o : Object) (source : Option String) :
    Logged (Except Failure (Option Bool) × Registry) :=
  match o.marker, o.toFunction? with
  | .error failure, _ => return (.error failure, r)
  | .ok (some m), some f => do
      let (outcome, r) ← r.registerMarked f m source
      return (outcome.map some, r)
  | _, _ => return (.ok none, r)

/-- Register an object, which must have a marker. -/
def register (r : Registry) (o : Object) (source : Option String) :
    Logged (Except Failure Bool × Registry) := do
  let (outcome, r) ← r.registerIfMarked o source
  match outcome with
  | .ok (some isNew) => return (.ok isNew, r)
  | .ok none => return (.error (.type (o.shown ++ " is not marked with an analyzer decorator")), r)
  | .error failure => return (.error failure, r)

/-- Register the marked ones among candidates, and count them. A candidate that cannot be looked at is
logged, unless its failure is no ordinary exception: that ends everything. -/
def registerCandidates (source : String) (r : Registry) :
    List (String × Object) → Logged (Except Failure Nat × Registry)
  | [] => return (.ok 0, r)
  | (name, o) :: rest => do
      let (outcome, r) ← r.registerIfMarked o (some source)
      match outcome with
      | .ok isNew =>
          let (count, r) ← registerCandidates source r rest
          return (count.map ((isNew.getD false).toNat + ·), r)
      | .error failure =>
          if failure.isExit then return (.error failure, r)
          else
            Logged.note .error (s!"Inspecting {name} in {source} failed: " ++ failure.text)
            registerCandidates source r rest

/-- The source of the analyzers of a module: the one that is named, or the file of the module, or the
module itself. An empty text names nothing. -/
def moduleSource (m : Module) (source : Option String) : String :=
  ((source.filter (· ≠ "")).or (m.file.filter (· ≠ ""))).getD m.name

/-- Register the analyzers of a module, and count them. -/
def registerModule (r : Registry) (m : Module) (source : Option String := none) :
    Logged (Except Failure Nat × Registry) := do
  let source := moduleSource m source
  match m.candidates with
  | .ok candidates => registerCandidates source r candidates
  | .error failure =>
      if failure.isExit then return (.error failure, r)
      else
        Logged.note .error (s!"Could not list analyzers of {source}: " ++ failure.text)
        return (.ok 0, r)

/-! ## Scanning -/

/-- Whether a failure while a plugin is loaded ends the scan: it is no ordinary exception, and the
plugin does not just leave. -/
def endsScan (f : Failure) : Bool := f.isExit && f.kind != "SystemExit"

/-- Register the analyzers of plugins, and count them. -/
def loadAll (tree : FileTree Program) (r : Registry) :
    List Path → Logged (Except Failure Nat × Registry)
  | [] => return (.ok 0, r)
  | path :: rest => do
      let file := path.toString
      match load tree path with
      | .ok m =>
          let (count, r) ← r.registerModule m (some file)
          match count with
          | .error failure => return (.error failure, r)
          | .ok count =>
              Logged.note .debug s!"Registered {count} analyzer(s) from {file}"
              let (more, r) ← loadAll tree r rest
              return (more.map (count + ·), r)
      | .error failure =>
          if endsScan failure then return (.error failure, r)
          else
            Logged.note .error (s!"Could not load analyzers from {file}: " ++ failure.shown)
            Logged.note .debug s!"Load failure for {file}" (some failure)
            loadAll tree r rest

/-- Register the analyzers of all plugins under a path; count the plugins and the analyzers. -/
def scan (tree : FileTree Program) (r : Registry) (root : Path) :
    Logged (Except Failure (Nat × Nat) × Registry) := do
  match tree.pluginFiles root with
  | .error failure => return (.error failure, r)
  | .ok files =>
      let found := files.length
      let place := root.toString
      Logged.note .debug s!"Found {found} plugin file(s) under {place}"
      let (count, r) ← loadAll tree r files
      return (count.map (found, ·), r)

/-- Register the analyzers of all plugins under some paths, and add up the counts. -/
def scanAll (tree : FileTree Program) (r : Registry) :
    List Path → Logged (Except Failure (Nat × Nat) × Registry)
  | [] => return (.ok (0, 0), r)
  | path :: rest => do
      let (counts, r) ← scan tree r path
      match counts with
      | .error failure => return (.error failure, r)
      | .ok (files, analyzers) =>
          let (more, r) ← scanAll tree r rest
          return (more.map fun m => (files + m.1, analyzers + m.2), r)

/-! ## Running -/

/-- The messages of all registered analyzers for a context. -/
def run (r : Registry) (c : Context) (workers : Option Int := none) :
    Attempt (List AnalyzerMessage) :=
  runAll r.descriptors c workers

/-- The results of all registered analyzers for a context. -/
def runSafely (r : Registry) (c : Context) (workers : Option Int := none) :
    Attempt (List AnalysisResult) :=
  Plugin.runSafely r.descriptors c workers

/-- The results of all registered analyzers for a text that is open in an editor. -/
def runEditor (r : Registry) (file : String) (source : Option String) :
    Attempt (List AnalysisResult) := do
  r.runSafely (← Attempt.ofLogged (Context.forEditor file source none))

end Registry

/-- A registry of all plugins under some paths, with the numbers of plugins and of analyzers. -/
def loadRegistry (tree : FileTree Program) (paths : List Path) (kind : HostKind := .cli)
    (excluded : Value := .tuple []) : Attempt (Registry × Nat × Nat) := do
  let start ← Attempt.ofExcept (Registry.empty kind excluded)
  let (counts, r) ← Attempt.ofLogged (Registry.scanAll tree start paths)
  let (files, analyzers) ← Attempt.ofExcept counts
  Attempt.note .info s!"Registered {analyzers} analyzers from {files} plugin files"
  return (r, files, analyzers)

/-- A registry of all plugins under a path, which must hold analyzers for the kind of host. -/
def loadTestAnalyzers (tree : FileTree Program) (path : String) (kind : HostKind := .cli) :
    Attempt Registry := do
  let (counts, r) ← Attempt.ofLogged (Registry.scan tree { kind } (Path.ofString path))
  let (files, analyzers) ← Attempt.ofExcept counts
  if files = 0 then throw (.context s!"No analyzer plugin files found in {path}")
  let word := kind.word
  if analyzers = 0 then throw (.context s!"No {word} analyzers found in {path}")
  return r

end Assay.Plugin
