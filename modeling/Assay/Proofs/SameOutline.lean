import Assay.Proofs.LinkEnds
import Assay.Proofs.Projects
import Assay.Proofs.Spoiled

/-! # Trees with the same outline

Trees have the same outline if they differ in what is in files only. Paths are resolved and files are
found in the same way in both. An analysis looks into plugins and source files, so that it comes out
the same if these are.
-/

namespace Assay

open Check Plugin

namespace FileTree

variable {π : Type} {t u : FileTree π}

/-- Trees with the same entries in the same order. Only what is in files can be different. -/
structure SameOutline (t u : FileTree π) : Prop where
  workingDirectory : u.workingDirectory = t.workingDirectory
  closedPlaces : u.closedPlaces = t.closedPlaces
  entries : (u.entries.map fun e => (e.1, e.2.bare)) = t.entries.map fun e => (e.1, e.2.bare)

namespace SameOutline

theorem refl (t : FileTree π) : t.SameOutline t := ⟨rfl, rfl, rfl⟩

variable (h : t.SameOutline u)

include h

/-- What does not look into files is the same for all entries. -/
theorem map_eq {β : Type} {g : List String × Entry π → β}
    (hg : ∀ place e, g (place, Entry.bare e) = g (place, e)) :
    u.entries.map g = t.entries.map g := by
  have hbare : ∀ es : List (List String × Entry π),
      es.map g = (es.map fun e => (e.1, e.2.bare)).map g := by
    intro es
    rw [List.map_map]
    exact List.map_congr_left fun e _ => (hg e.1 e.2).symm
  rw [hbare, h.entries, ← hbare]

theorem sameShape : t.SameShape u := by
  refine ⟨h.workingDirectory, h.closedPlaces, fun place => ?_⟩
  by_cases hplace : place = []
  · rw [hplace]
    rfl
  · have hbare : ∀ es : List (List String × Entry π),
        ((es.find? fun e => e.1 = place).map (·.2)).map Entry.bare =
          ((es.map fun e => (e.1, e.2.bare)).find? fun e => e.1 = place).map (·.2) := by
      intro es
      rw [List.find?_map, Option.map_map, Option.map_map]
      rfl
    rw [entry?_of_ne_nil hplace, entry?_of_ne_nil hplace, hbare, h.entries, hbare]

/-! ## Paths -/

/-- A path leads to the same place in both trees. -/
theorem located (p : Path) :
    (∃ f, t.locate p = .error f ∧ u.locate p = .error f) ∨
      ∃ place e f, t.locate p = .ok (place, e) ∧ u.locate p = .ok (place, f) ∧
        f.bare = e.bare := by
  have hlocate := h.sameShape.locate_eq p
  cases ht : t.locate p with
  | error f =>
      rw [ht] at hlocate
      exact .inl ⟨f, rfl, hlocate⟩
  | ok found =>
      obtain ⟨place, e⟩ := found
      have hentries := h.sameShape.entries place
      rw [entry?_of_locate ht] at hentries
      obtain ⟨f, hu, hbare⟩ := Option.map_eq_some_iff.mp hentries
      simp only [ht, bind, Except.bind, hu] at hlocate
      exact .inr ⟨place, e, f, rfl, hlocate, hbare⟩

/-- Looking at a path finds the same, or a file in both trees. -/
theorem looked (p : Path) :
    (∃ f, t.look p = .error f ∧ u.look p = .error f) ∨
      ∃ d e, t.look p = .ok d ∧ u.look p = .ok e ∧ e.map Entry.bare = d.map Entry.bare := by
  unfold FileTree.look
  rcases h.located p with ⟨f, ht, hu⟩ | ⟨place, e, f, ht, hu, hbare⟩
  · simp only [ht, hu]
    split
    · exact .inr ⟨none, none, rfl, rfl, rfl⟩
    · exact .inl ⟨_, rfl, rfl⟩
  · simp only [ht, hu]
    exact .inr ⟨some e, some f, rfl, rfl, congrArg some hbare⟩

theorem isFile : u.isFile = t.isFile := by
  funext p
  unfold FileTree.isFile
  rcases h.looked p with ⟨f, ht, hu⟩ | ⟨d, e, ht, hu, hbare⟩
  · rw [ht, hu]
  · rw [ht, hu]
    rcases d with _ | _ | _ | _ <;> rcases e with _ | _ | _ | _ <;> first | rfl | cases hbare

theorem isDirectory : u.isDirectory = t.isDirectory := by
  funext p
  unfold FileTree.isDirectory
  rcases h.looked p with ⟨f, ht, hu⟩ | ⟨d, e, ht, hu, hbare⟩
  · rw [ht, hu]
  · rw [ht, hu]
    rcases d with _ | _ | _ | _ <;> rcases e with _ | _ | _ | _ <;> first | rfl | cases hbare

theorem exists? : u.exists? = t.exists? := by
  funext p
  unfold FileTree.exists?
  rcases h.looked p with ⟨f, ht, hu⟩ | ⟨d, e, ht, hu, hbare⟩
  · rw [ht, hu]
  · have hsome := congrArg Option.isSome hbare
    rw [Option.isSome_map, Option.isSome_map] at hsome
    rw [ht, hu, Attempt.ok_bind, Attempt.ok_bind, hsome]

theorem names : u.names = t.names := by
  funext place
  have hplaces : u.entries.map (·.1) = t.entries.map (·.1) := h.map_eq fun _ _ => rfl
  have hnames : ∀ t : FileTree π, t.names place = (t.entries.map (·.1)).filterMap fun q =>
      q.getLast?.bind fun name => if q.dropLast = place then some name else none := by
    intro t
    rw [List.filterMap_map]
    refine List.filterMap_congr fun e _ => ?_
    rw [Function.comp_apply]
    cases e.1.getLast? <;> rfl
  rw [hnames, hnames, hplaces]

theorem list : u.list = t.list := by
  funext p
  unfold FileTree.list
  rcases h.located p with ⟨f, ht, hu⟩ | ⟨place, e, f, ht, hu, hbare⟩
  · rw [ht, hu]
  · have hclosed : u.isClosed place = t.isClosed place := by
      rw [isClosed, isClosed, h.closedPlaces]
    rw [ht, hu, h.names]
    cases e <;> cases f <;> simp_all [Entry.bare]

theorem ownEntry? (p : Path) :
    (u.ownEntry? p).map Entry.bare = (t.ownEntry? p).map Entry.bare := by
  unfold FileTree.ownEntry?
  rcases h.located p.parent with ⟨f, ht, hu⟩ | ⟨place, e, f, ht, hu, hbare⟩
  · rw [ht, hu]
  · rw [ht, hu]
    cases e <;> cases f <;> simp_all [Entry.bare, h.sameShape.entries]

theorem isOwnDirectory : u.isOwnDirectory = t.isOwnDirectory := by
  funext p
  have hown := h.ownEntry? p
  unfold FileTree.isOwnDirectory
  rcases ht : t.ownEntry? p with _ | _ | _ | _ <;> rcases hu : u.ownEntry? p with _ | _ | _ | _ <;>
    simp_all [Entry.bare]

theorem leadsOn : u.leadsOn = t.leadsOn := by
  funext p
  have hown := h.ownEntry? p
  unfold FileTree.leadsOn
  rcases ht : t.ownEntry? p with _ | _ | _ | _ <;> rcases hu : u.ownEntry? p with _ | _ | _ | _ <;>
    simp_all [Entry.bare, h.isDirectory]

/-! ## Resolving -/

theorem resolveNames_eq (fuel : Nat) (seen : Trail) (place rest : List String) :
    u.resolveNames fuel seen place rest = t.resolveNames fuel seen place rest := by
  induction fuel generalizing seen place rest with
  | zero => rfl
  | succ fuel ih =>
      cases rest with
      | nil => rfl
      | cons name rest =>
          have hhidden : u.isHidden (place ++ [name]) = t.isHidden (place ++ [name]) := by
            rw [isHidden, isHidden, h.closedPlaces]
          simp only [resolveNames, ih, shown?, hhidden]
          rcases h.sameShape.cases (place ++ [name]) with hnext | ⟨_, _, _, _, ht, hu⟩
          · rw [hnext]
          · rw [ht, hu]
            cases t.isHidden (place ++ [name]) <;> rfl

theorem resolve : u.resolve = t.resolve := by
  funext p
  have habsolute : u.absolute p = t.absolute p := h.sameShape.absolute p
  simp only [FileTree.resolve, habsolute, h.resolveNames_eq]
  rw [h.map_eq fun place e => by cases e <;> rfl]
  split
  next => rfl
  next =>
    rcases h.located { root := .slash, parts := lexical (t.resolveNames _ [] [] _).1 } with
      ⟨f, ht, hu⟩ | ⟨place, e, f, ht, hu, -⟩
    · rw [ht, hu]
    · rw [ht, hu]

/-! ## Finding files -/

theorem depth : u.depth = t.depth := by
  unfold FileTree.depth
  rw [h.map_eq fun _ _ => rfl]

theorem directories (depth : Nat) (p : Path) : u.directories depth p = t.directories depth p := by
  induction depth generalizing p with
  | zero => rfl
  | succ depth ih => simp only [FileTree.directories, h.list, h.isOwnDirectory, ih]

theorem through (p : Path) (names : List String) : u.through p names = t.through p names := by
  induction names with
  | nil => rfl
  | cons name rest ih => simp only [FileTree.through, h.leadsOn, ih]

theorem select (steps : List PathStep) (p : Path) : u.select steps p = t.select steps p := by
  induction steps generalizing p with
  | nil => rfl
  | cons step rest ih =>
      cases step <;>
        simp only [FileTree.select, ih, h.exists?, h.isDirectory, h.list, h.directories, h.depth,
          h.through]

theorem glob : u.glob = t.glob := by
  funext root pattern
  simp only [FileTree.glob, h.isDirectory, h.select]

theorem filesIn (skips wants : Path → Bool) (found : List (Except Failure Path)) :
    u.filesIn skips wants found = t.filesIn skips wants found := by
  have hfile : u.fileAt skips wants = t.fileAt skips wants := by
    funext found
    simp only [FileTree.fileAt, h.isFile, h.resolve]
  simp only [FileTree.filesIn, hfile]

theorem pluginFiles : u.pluginFiles = t.pluginFiles := by
  funext root
  simp only [FileTree.pluginFiles, h.isFile, h.isDirectory, h.glob, h.resolve, h.filesIn]

theorem sourceFiles : u.sourceFiles = t.sourceFiles := by
  funext root patterns skipped
  simp only [FileTree.sourceFiles, h.glob, h.filesIn]

theorem loadProject (path : String) (directory : Path) :
    loadProject u path directory = loadProject t path directory := by
  simp only [Assay.loadProject, h.resolve, h.exists?, h.isFile, h.sourceFiles]

theorem keepSources (directory : Path) (entries : List String) :
    keepSources u directory entries = keepSources t directory entries := by
  induction entries with
  | nil => rfl
  | cons entry rest ih => simp only [Assay.keepSources, leadsToSource, h.isFile, h.resolve, ih]

theorem projectOfSources (sources : List String) (directory : Path) :
    projectOfSources u sources directory = projectOfSources t sources directory := by
  simp only [Assay.projectOfSources, h.keepSources]

theorem analyzerPaths (c : Config) (directory : Path) :
    c.analyzerPaths u directory = c.analyzerPaths t directory := by
  simp only [Config.analyzerPaths, h.resolve]

end SameOutline

/-! ## Files that are found -/

/-- What is found is named by where it is. -/
theorem exists_of_mem_pluginFiles {root : Path} {files : List Path}
    (h : t.pluginFiles root = .ok files) {q : Path} (hq : q ∈ files) :
    ∃ p, t.resolve p = .ok q := by
  obtain ⟨here, -, h⟩ := Attempt.of_bind_eq_ok h
  split at h
  next =>
    split at h
    next =>
      obtain ⟨p, hp, h⟩ := Attempt.of_bind_eq_ok h
      cases h
      exact ⟨root, List.mem_singleton.mp hq ▸ hp⟩
    next =>
      cases h
      cases hq
  next =>
    obtain ⟨directory, -, h⟩ := Attempt.of_bind_eq_ok h
    split at h
    next =>
      cases h
      cases hq
    next =>
      obtain ⟨p, -, -, -, -, hp⟩ := (mem_filesIn_of_ok h q).mp hq
      exact ⟨p, hp⟩

theorem readText_congr {p : Path} (h : u.locate p = t.locate p) : u.readText p = t.readText p := by
  simp only [readText, readBytes, h]

end FileTree

/-! ## Analyses -/

theorem ofExcept_bind_congr {α β : Type} {x : Except Failure α} {f g : α → Attempt β}
    (h : ∀ a, x = .ok a → f a = g a) : Attempt.ofExcept x >>= f = Attempt.ofExcept x >>= g := by
  cases x with
  | error e => rfl
  | ok a =>
      have ha := h a rfl
      apply Attempt.ext <;> simp [Attempt.log_bind, ha]

/-- The plugins under some paths. -/
def pluginsUnder (tree : FileTree Program) (paths : List Path) : List Path :=
  paths.flatMap fun root => (tree.pluginFiles root).toOption.getD []

/-- The files that an analysis looks into: the plugins that are configured, and the source files of
the projects once these are resolved. -/
def filesRead (tree : FileTree Program) (projects : List String) (sources : Option (List String))
    (config : Config) (directory : Path) : List Path :=
  (match config.analyzerPaths tree directory with
    | .ok paths => pluginsUnder tree paths
    | .error _ => []) ++
  (match Attempt.outcome (prepare tree projects sources config directory) with
    | .ok p => p.projects.flatMap fun options => options.sources.map Path.ofString
    | .error _ => [])

namespace FileTree.SameOutline

variable {tree other : FileTree Program} (h : tree.SameOutline other)

include h

theorem load (hproper : tree.Proper) {p q : Path} (hq : tree.resolve p = .ok q)
    (hread : other.locate q = tree.locate q) : load other q = load tree q := by
  have hself := (hproper.resolve_resolved hq).1
  exact Registry.load_congr hself (by rw [h.resolve, hself]) hread

theorem scan (hproper : tree.Proper) {root : Path}
    (hread : ∀ q ∈ pluginsUnder tree [root], other.locate q = tree.locate q) (r : Registry) :
    Registry.scan other r root = Registry.scan tree r root := by
  unfold Registry.scan
  rw [h.pluginFiles]
  cases hfiles : tree.pluginFiles root with
  | error f => rfl
  | ok files =>
      simp only [pluginsUnder, List.flatMap_singleton, hfiles, Except.toOption,
        Option.getD_some] at hread
      have hload : ∀ q ∈ files, Plugin.load other q = Plugin.load tree q := by
        intro q hq
        obtain ⟨p, hp⟩ := exists_of_mem_pluginFiles hfiles hq
        exact h.load hproper hp (hread q hq)
      simp only [Registry.loadAll_congr hload]

theorem scanAll (hproper : tree.Proper) {paths : List Path}
    (hread : ∀ q ∈ pluginsUnder tree paths, other.locate q = tree.locate q) (r : Registry) :
    Registry.scanAll other r paths = Registry.scanAll tree r paths := by
  induction paths generalizing r with
  | nil => rfl
  | cons path rest ih =>
      rw [pluginsUnder, List.flatMap_cons, List.forall_mem_append] at hread
      have hfirst : ∀ q ∈ pluginsUnder tree [path], other.locate q = tree.locate q := by
        simpa [pluginsUnder] using hread.1
      simp only [Registry.scanAll, h.scan hproper hfirst, ih hread.2]

theorem loadAnalyzers (hproper : tree.Proper) {config : Config} {directory : Path}
    (hread : ∀ paths, config.analyzerPaths tree directory = .ok paths →
      ∀ q ∈ pluginsUnder tree paths, other.locate q = tree.locate q) :
    loadAnalyzers other config directory = loadAnalyzers tree config directory := by
  unfold Assay.loadAnalyzers
  rw [h.analyzerPaths]
  refine ofExcept_bind_congr fun paths hpaths => ?_
  have hregistry : loadRegistry other paths .cli (config.get .excludeAnalyzers) =
      loadRegistry tree paths .cli (config.get .excludeAnalyzers) := by
    unfold loadRegistry
    simp only [h.scanAll hproper (hread paths hpaths)]
  rw [hregistry]

theorem resolveSubject (subject : Subject) (directory : Path) :
    subject.resolve other directory = subject.resolve tree directory := by
  cases subject <;> simp only [Subject.resolve, h.projectOfSources, h.loadProject]

theorem prepare (hproper : tree.Proper) {projects : List String} {sources : Option (List String)}
    {config : Config} {directory : Path}
    (hread : ∀ q ∈ filesRead tree projects sources config directory,
      other.locate q = tree.locate q) :
    prepare other projects sources config directory =
      prepare tree projects sources config directory := by
  have hplugins : ∀ paths, config.analyzerPaths tree directory = .ok paths →
      ∀ q ∈ pluginsUnder tree paths, other.locate q = tree.locate q := by
    intro paths hpaths q hq
    refine hread q (List.mem_append_left _ ?_)
    rwa [hpaths]
  simp only [Assay.prepare, h.loadAnalyzers hproper hplugins, h.resolveSubject]

omit h in
/-- The messages of a project are told by what is in its files. -/
theorem messagesAlone_congr {options : ProjectOptions}
    (hread : ∀ file ∈ options.sources,
      other.locate (Path.ofString file) = tree.locate (Path.ofString file))
    (registry : Registry) (ignored : List String) (mappings : SeverityMappings) :
    messagesAlone registry other ignored mappings options =
      messagesAlone registry tree ignored mappings options := by
  have htext : ∀ file ∈ options.sources,
      other.readText (Path.ofString file) = tree.readText (Path.ofString file) :=
    fun file hfile => readText_congr (hread file hfile)
  have hresults : ∀ files, files ⊆ options.sources → resultsIn other files = resultsIn tree files := by
    intro files hfiles
    induction files with
    | nil => rfl
    | cons file rest ih =>
        obtain ⟨hfile, hrest⟩ := List.cons_subset.mp hfiles
        simp only [resultsIn, checkedIn, htext file hfile, ih hrest]
  rw [messagesAlone, messagesAlone, runProject_outcome Checker.faithful_empty,
    runProject_outcome Checker.faithful_empty, hresults _ (List.Subset.refl _)]
  refine bind_congr fun project => ?_
  have hcontexts : analyzedContexts other options ignored project =
      analyzedContexts tree options ignored project := by
    refine List.map_congr_left fun file hfile => ?_
    simp only [contextOf, htext file (List.mem_filter.mp hfile).1]
  rw [hcontexts]

/-- Analyses of trees with the same outline come out the same if the files that they look into are
the same. -/
theorem analyze (hproper : tree.Proper) {projects : List String} {sources : Option (List String)}
    {config : Config} {directory : Path}
    (hread : ∀ q ∈ filesRead tree projects sources config directory,
      other.locate q = tree.locate q) :
    Attempt.outcome (analyze other projects sources config directory) =
      Attempt.outcome (analyze tree projects sources config directory) := by
  rw [analyze_eq_prepare_finish, analyze_eq_prepare_finish, h.prepare hproper hread,
    Attempt.outcome_bind, Attempt.outcome_bind]
  cases hprepare : Attempt.outcome (Assay.prepare tree projects sources config directory) with
  | error f => rw [Attempt.error_bind, Attempt.error_bind]
  | ok p =>
      have hsources : ∀ options ∈ p.projects, ∀ file ∈ options.sources,
          other.locate (Path.ofString file) = tree.locate (Path.ofString file) := by
        intro options hoptions file hfile
        refine hread _ (List.mem_append_right _ ?_)
        rw [hprepare]
        exact List.mem_flatMap.mpr ⟨options, hoptions, List.mem_map_of_mem hfile⟩
      have hcollect := collect_congr fun options hoptions =>
        messagesAlone_congr (hsources options hoptions) p.registry p.ignored p.mappings
      simp only [Attempt.ok_bind, Prepared.finish, Attempt.outcome_bind,
        runProjects_outcome Checker.faithful_empty, hcollect]

end FileTree.SameOutline

end Assay
