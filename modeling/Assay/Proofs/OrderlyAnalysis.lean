import Assay.Proofs.Configuration
import Assay.Proofs.PathText
import Assay.Proofs.Preparation
import Assay.Proofs.ReportOutcome
import Assay.Proofs.SameOutline

/-! # Analyses that end well

If no plugin interrupts the scan and the analyzers give messages that can be written, an analysis
fails with nothing but the host's own failures. All its messages can be written then. Each part of an
analysis ends well by itself, and so does the whole.
-/

namespace Assay

open Check Plugin

/-! ## Ending well -/

/-- Whether a computation gives something fit, or fails with one of the host's own failures. -/
def EndsWell {α : Type} (fit : α → Prop) (x : Except Failure α) : Prop :=
  match x with
  | .ok a => fit a
  | .error f => f.isHostFailure = true

namespace EndsWell

variable {α β : Type} {fit : α → Prop} {good : β → Prop} {x : Except Failure α}

theorem of_ok {a : α} (h : x = .ok a) (ha : fit a) : EndsWell fit x := by
  rw [h]
  exact ha

theorem bind {g : α → Except Failure β} (hx : EndsWell fit x)
    (hg : ∀ a, fit a → EndsWell good (g a)) : EndsWell good (x >>= g) := by
  cases x with
  | error f => exact hx
  | ok a => exact hg a hx

/-- What is known of everything that a computation gives is fit too. -/
theorem and (hx : EndsWell fit x) {more : α → Prop} (hmore : ∀ a, x = .ok a → more a) :
    EndsWell (fun a => fit a ∧ more a) x := by
  cases x with
  | error f => exact hx
  | ok a => exact ⟨hx, hmore a rfl⟩

theorem mapM {f : β → Except Failure α} {xs : List β} (h : ∀ b ∈ xs, EndsWell fit (f b)) :
    EndsWell (fun ys => ∀ y ∈ ys, fit y) (xs.mapM f) := by
  induction xs with
  | nil => exact List.forall_mem_nil _
  | cons b xs ih =>
      rw [List.forall_mem_cons] at h
      rw [List.mapM_cons]
      refine h.1.bind fun a ha => (ih h.2).bind fun rest hrest => ?_
      exact List.forall_mem_cons.mpr ⟨ha, hrest⟩

theorem collect {f : β → Except Failure (List α)} {xs : List β}
    (h : ∀ b ∈ xs, EndsWell (fun ys => ∀ y ∈ ys, fit y) (f b)) :
    EndsWell (fun ys => ∀ y ∈ ys, fit y) (collect f xs) := by
  have hparts := mapM h
  unfold Assay.collect
  cases hall : xs.mapM f with
  | error e =>
      rw [hall] at hparts
      exact hparts
  | ok parts =>
      rw [hall] at hparts
      intro y hy
      obtain ⟨part, hpart, hy⟩ := List.mem_flatten.mp hy
      exact hparts part hpart y hy

end EndsWell

/-! ## The configuration -/

namespace Config.IsTextual

variable {c : Config} (h : c.IsTextual)

include h

theorem keys (key : ConfigKey) (hkey : key.isList = true) : ∃ vs : List Value,
    c.get key = .tuple vs ∧ (∀ v ∈ vs, v.IsTextual) ∧ (c.get key).keys = .ok vs := by
  obtain ⟨vs, hvs, htextual⟩ := h key hkey
  refine ⟨vs, hvs, htextual, ?_⟩
  simp only [hvs, Value.keys, Value.items, Attempt.ok_bind, Value.forM_requireKey_textual htextual]
  rfl

theorem texts (key : ConfigKey) (hkey : key.isList = true) :
    ∃ texts, c.texts key = .ok texts := by
  obtain ⟨vs, -, -, hkeys⟩ := h.keys key hkey
  exact ⟨vs.filterMap Value.text?, by rw [Config.texts, hkeys]; rfl⟩

/-- Only texts are given severities. -/
theorem severityMappings :
    ∃ m, c.severityMappings = .ok m ∧ ∀ code ∈ m.listed, code.IsTextual := by
  obtain ⟨info, -, hinfo, hinfoKeys⟩ := h.keys (.treatAs .info) rfl
  obtain ⟨hint, -, hhint, hhintKeys⟩ := h.keys (.treatAs .hint) rfl
  obtain ⟨warning, -, hwarning, hwarningKeys⟩ := h.keys (.treatAs .warning) rfl
  obtain ⟨error, -, herror, herrorKeys⟩ := h.keys (.treatAs .error) rfl
  refine ⟨.ofLists info hint warning error, ?_, fun code hcode => ?_⟩
  · rw [Config.severityMappings, hinfoKeys, hhintKeys, hwarningKeys, herrorKeys]
    rfl
  · obtain ⟨severity, -, hcode⟩ := List.mem_flatMap.mp hcode
    cases severity
    · exact hinfo code ((eraseDups_sublist _).subset hcode)
    · exact hhint code ((eraseDups_sublist _).subset hcode)
    · exact hwarning code ((eraseDups_sublist _).subset hcode)
    · exact herror code ((eraseDups_sublist _).subset hcode)

end Config.IsTextual

theorem SeverityMappings.ensureValid_endsWell {m : SeverityMappings}
    (h : ∀ code ∈ m.listed, code.IsTextual) : EndsWell (fun _ => True) m.ensureValid := by
  unfold ensureValid
  split
  next =>
    have hrepeated : ∀ code ∈ m.listed.eraseDups.filter
        (fun code => 1 < (m.listed.filter (· == code)).length), code.IsTextual :=
      fun code hcode => h code ((eraseDups_sublist _).subset (List.mem_filter.mp hcode).1)
    have hjoined := Value.joinTexts_textual fun code hcode =>
      hrepeated code ((Value.sortByKey_perm (fun v => v.text?.getD "") _).mem_iff.mp hcode)
    simp only [conflictingCodes, Value.sorted_textual hrepeated, Except.mapError, hjoined,
      Attempt.ok_bind]
    rfl
  next => trivial

theorem Subject.of_endsWell (projects : List String) (sources : Option (List String)) :
    EndsWell (fun subject => (∀ paths, subject = .projects paths → paths = projects) ∧
        ∀ files, subject = .sources files → sources = some files)
      (Subject.of projects sources) := by
  cases projects <;> cases sources
  case nil.none | cons.some => rfl
  case nil.some =>
    refine ⟨nofun, ?_⟩
    rintro _ ⟨rfl⟩
    rfl
  case cons.none =>
    refine ⟨?_, nofun⟩
    rintro _ ⟨rfl⟩
    rfl

/-! ## Analyzers -/

/-- An analyzer with a textual name that gives messages which can be written. -/
structure Plugin.Descriptor.IsOrderly (d : Descriptor) : Prop where
  name : d.name.IsText
  messages : ∀ c ms, d.execute c = .ok ms → ∀ m ∈ ms, (d.tag m).IsWritable

namespace Plugin

/-- Analyzers with textual names have one for each name. -/
theorem byName_texts {ds : List Descriptor} (h : ∀ d ∈ ds, d.name.IsText) :
    ∃ kept, byName ds = .ok kept ∧ kept ⊆ ds := by
  refine ⟨_, by rw [byName, requireKeys_texts h]; rfl, fun d hd => ?_⟩
  obtain ⟨e, he, rfl⟩ := List.mem_map.mp hd
  rcases mem_putAll he with hnone | ⟨hmem, -⟩
  · cases hnone
  · exact hmem

/-- Analyzers with textual names run, and give the messages of some of them. -/
theorem runAll_texts {ds : List Descriptor} (h : ∀ d ∈ ds, d.name.IsText) (c : Context) :
    ∃ ordered, ordered ⊆ ds ∧
      Attempt.outcome (runAll ds c) = .ok (ordered.flatMap (·.contribution c)) := by
  have hsorted : ∀ {es : List Descriptor}, inOrder es ⊆ es :=
    fun {es} d hd => (Value.sortByKey_perm _ es).mem_iff.mp hd
  have hnames : ∀ d ∈ inOrder ds, d.name.IsText := fun d hd => h d (hsorted hd)
  obtain ⟨kept, hkept, hsubset⟩ := byName_texts hnames
  have hds : inOrder kept ⊆ ds := fun d hd => hsorted (hsubset (hsorted hd))
  have hagain := sortByName_texts fun d hd => hnames d (hsubset hd)
  have hrun : Attempt.outcome (runOrdered (inOrder kept) c none (List.range ds.length)) = _ :=
    runOrdered_outcome (inOrder kept) c none (List.range ds.length)
  refine ⟨inOrder kept, hds, ?_⟩
  simp [runAll, sortByName_texts h, hkept, hagain, hrun,
    (messagesOfAll_verdicts c (inOrder kept)).1]

namespace Registry

variable {registry : Registry} (h : ∀ d ∈ registry.descriptors, d.IsOrderly)

include h

/-- Orderly analyzers give messages that can be written, whatever severities they are given. -/
theorem messagesFor_endsWell (mappings : SeverityMappings) (c : Context) :
    EndsWell (fun ms => ∀ m ∈ ms, m.IsWritable) (messagesFor registry mappings c) := by
  obtain ⟨ordered, hordered, hrun⟩ := runAll_texts (fun d hd => (h d hd).name) c
  have hgiven : ∀ m ∈ ordered.flatMap (·.contribution c), m.IsWritable := by
    intro m hm
    obtain ⟨d, hd, hm⟩ := List.mem_flatMap.mp hm
    unfold Descriptor.contribution at hm
    split at hm
    next ms hexecute =>
      obtain ⟨n, hn, rfl⟩ := List.mem_map.mp hm
      exact (h d (hordered hd)).messages c ms hexecute n hn
    next => cases hm
  have hkeys : ∀ m ∈ ordered.flatMap (·.contribution c), m.code.unsearchable? = none := by
    intro m hm
    obtain ⟨s, hs⟩ := (hgiven m hm).code
    rw [hs]
    rfl
  have hremap : remapAll mappings _ = _ := remapAll_of_keys hkeys
  refine EndsWell.of_ok (by rw [messagesFor, Registry.run, hrun]; exact hremap) fun m hm => ?_
  obtain ⟨n, hn, rfl⟩ := List.mem_map.mp hm
  unfold SeverityMappings.remapped
  split
  · exact (hgiven n hn).withSeverity _
  · exact hgiven n hn

end Registry

end Plugin

/-! ## Files -/

namespace FileTree

variable {π : Type} {t : FileTree π}

/-- A path that can be there can be there when it has been written and read again. -/
theorem hasNul_ofString_toString {p : Path} (hp : hasNul p = false) :
    hasNul (Path.ofString p.toString) = false := by
  rw [hasNul_eq_false_iff] at hp
  have hroot : '\x00' ∉ p.root.text.toList := by cases p.root <;> decide
  have hparts : '\x00' ∉ ['/'].intercalate (p.parts.map String.toList) :=
    Json.not_mem_intercalate (by decide) (List.forall_mem_map.mpr hp)
  rw [Bool.eq_false_iff, Ne, hasNul_ofString]
  unfold Path.toString
  split
  · decide
  · simpa using ⟨hroot, hparts⟩

/-- A file with a path that can be there is read, or it is left out. -/
theorem isReadFailure_of_readText {p : Path} {f : Failure} (hp : hasNul p = false)
    (h : t.readText p = .error f) : f.isReadFailure = true := by
  rcases readText_error h with hsystem | ⟨hnul, -⟩ | ⟨_, _, -, -, rfl⟩
  · rw [Failure.isReadFailure, hsystem, Bool.true_or]
  · cases hp.symm.trans hnul
  · rfl

end FileTree

/-! ## Plugins -/

namespace FileTree.Proper

variable {π : Type} {t : FileTree π} (h : t.Proper)

include h

theorem resolve_of_isFile {p : Path} (hp : t.isFile p = .ok true) :
    ∃ q, t.resolve p = .ok q ∧ hasNul q = false := by
  obtain ⟨place, bytes, program, hlocate⟩ := isFile_iff.mp hp
  obtain ⟨q, hq, hnul, -⟩ := h.resolve_of_locate hlocate
  exact ⟨q, hq, hnul⟩

variable {root : Path} (hroot : t.Searchable root)

include hroot

/-- Source files are found, whichever of them are left out. -/
theorem filesIn_ok (skips wants : Path → Bool) :
    ∃ files, t.filesIn skips wants (t.glob root "**/*.py") = .ok files ∧
      ∀ q ∈ files, hasNul q = false := by
  have hfound : ∀ found ∈ t.glob root "**/*.py", ∃ p, found = .ok p ∧ t.Answers p := by
    obtain ⟨directory, hdirectory⟩ := hroot.answers.isDirectory
    cases directory with
    | true =>
        rw [glob_sourceFiles_of_directory hdirectory]
        exact fun found hmem => hroot.of_mem_select hdirectory hmem
    | false =>
        simp only [glob, parse_sourceFiles, hdirectory]
        exact List.forall_mem_nil _
  obtain ⟨files, hfiles, hmem⟩ := mem_filesIn skips wants hfound fun p _ hp =>
    (h.resolve_of_isFile hp).imp fun _ => And.left
  refine ⟨files, hfiles, fun q hq => ?_⟩
  obtain ⟨p, -, -, -, -, hp⟩ := (hmem q).mp hq
  exact (h.resolve_resolved hp).2

theorem pluginFiles_ok : ∃ files, t.pluginFiles root = .ok files := by
  obtain ⟨file, hfile⟩ := hroot.answers.isFile
  obtain ⟨directory, hdirectory⟩ := hroot.answers.isDirectory
  simp only [pluginFiles, hfile, hdirectory, Attempt.ok_bind]
  split
  next hthere =>
    obtain ⟨q, hq, -⟩ := h.resolve_of_isFile (hthere ▸ hfile)
    split
    next => exact ⟨[q], by rw [hq]; rfl⟩
    next => exact ⟨[], rfl⟩
  next =>
    split
    next => exact ⟨[], rfl⟩
    next => exact (h.filesIn_ok hroot _ _).imp fun _ => And.left

theorem sourceFiles_ok :
    ∃ found, t.sourceFiles root [] [] = .ok found ∧ ∀ q ∈ found, hasNul q = false := by
  simpa [sourceFiles] using h.filesIn_ok hroot
    (fun p => (directoriesBelow root p).any fun d => skippedDirectories.contains d) fun _ => true

end FileTree.Proper

/-- A project with files that can be there. -/
def Check.ProjectOptions.IsNulFree (options : ProjectOptions) : Prop :=
  ∀ file ∈ options.sources, FileTree.hasNul (Path.ofString file) = false

section

variable {tree : FileTree Program}

/-- What is found in files that can be there is told for all of them. -/
theorem resultsIn_ok {files : List String}
    (hfiles : ∀ file ∈ files, FileTree.hasNul (Path.ofString file) = false) :
    ∃ results, resultsIn tree files = .ok results := by
  induction files with
  | nil => exact ⟨_, rfl⟩
  | cons file rest ih =>
      rw [List.forall_mem_cons] at hfiles
      obtain ⟨results, hresults⟩ := ih hfiles.2
      have hchecked : ∃ checked, checkedIn tree file = .ok checked := by
        unfold checkedIn
        split
        next => exact ⟨_, rfl⟩
        next hread => exact ⟨none, if_pos (FileTree.isReadFailure_of_readText hfiles.1 hread)⟩
      obtain ⟨checked, hchecked⟩ := hchecked
      exact ⟨results.add file checked, by rw [resultsIn, hchecked, hresults]; rfl⟩

theorem messagesAlone_endsWell {registry : Registry} {ignored : List String}
    {mappings : SeverityMappings} {options : ProjectOptions}
    (horderly : ∀ d ∈ registry.descriptors, d.IsOrderly) (hoptions : options.IsNulFree) :
    EndsWell (fun ms => ∀ m ∈ ms, m.IsWritable)
      (messagesAlone registry tree ignored mappings options) := by
  obtain ⟨project, hproject⟩ : ∃ project, resultsIn tree options.sources = .ok project :=
    resultsIn_ok hoptions
  rw [messagesAlone, runProject_outcome Checker.faithful_empty, hproject, Attempt.ok_bind]
  exact EndsWell.collect fun c _ => Registry.messagesFor_endsWell horderly mappings c

end

section

variable {tree : FileTree Program} (hproper : tree.Proper)

include hproper

/-- A scan gets through paths that can be searched if no plugin interrupts it. -/
theorem scanAll_ok {paths : List Path} (hsearch : ∀ p ∈ paths, tree.Searchable p)
    (hquiet : ∀ q ∈ pluginsUnder tree paths, ∀ r : Registry,
      r.stop? (Registry.pluginTurns tree q) = none)
    (r : Registry) : ∃ counts, (Registry.scanAll tree r paths).value.1 = .ok counts := by
  induction paths generalizing r with
  | nil => exact ⟨_, rfl⟩
  | cons path rest ih =>
      rw [List.forall_mem_cons] at hsearch
      rw [pluginsUnder, List.flatMap_cons, List.forall_mem_append] at hquiet
      obtain ⟨files, hfiles⟩ := hproper.pluginFiles_ok hsearch.1
      have hfirst : r.stop? (files.flatMap (Registry.pluginTurns tree)) = none := by
        rw [hfiles] at hquiet
        refine List.findSome?_eq_none_iff.mpr fun turn hturn => ?_
        obtain ⟨q, hq, hturn⟩ := List.mem_flatMap.mp hturn
        exact List.findSome?_eq_none_iff.mp (hquiet.1 q hq r) turn hturn
      have hload := (Registry.loadAll_runs tree r files).outcome
      rw [hfirst] at hload
      simp only [Registry.scanAll, Registry.scan, hfiles, Logged.value_bind, Logged.value_pure,
        hload, Except.map]
      obtain ⟨more, hmore⟩ := ih hsearch.2 hquiet.2 (Registry.loadAll tree r files).value.2
      simp [hmore]

/-- The places of analyzers are known if they are named by paths that can be there. -/
theorem analyzerPaths_ok {config : Config} (htextual : config.IsTextual)
    (hpaths : ∀ vs, config.get .analyzersPath = .tuple vs →
      ∀ v ∈ vs, FileTree.hasNul (Path.ofString v.str) = false) :
    ∃ paths, config.analyzerPaths tree tree.workingDirectory = .ok paths := by
  obtain ⟨vs, hfield, htexts⟩ := htextual .analyzersPath rfl
  have hnames : ∀ names : List Value, (∀ v ∈ names, v.IsTextual) →
      (∀ v ∈ names, FileTree.hasNul (Path.ofString v.str) = false) → ∃ paths,
        (names.mapM fun v => do
          let p ← Config.pathOf v
          if p.isAbsolute then return p else tree.resolve (tree.workingDirectory.join p)) =
          .ok paths := by
    intro names htextual hnul
    refine Attempt.mapM_ok_iff.mpr fun v hv => ?_
    have hpath : Config.pathOf v = .ok (Path.ofString v.str) := by
      unfold Config.pathOf
      split
      next => exact absurd (htextual _ hv) (by simp [Value.IsTextual, Value.text?])
      next => exact if_pos (htextual v hv)
    rw [hpath, Attempt.ok_bind]
    split
    · exact ⟨_, rfl⟩
    · have habsolute := FileTree.hasNul_eq_false_iff.mpr (hproper.absolute (hnul v hv))
      obtain ⟨q, hq, -⟩ := hproper.resolve_ok habsolute
      exact ⟨q, hq⟩
  unfold Config.analyzerPaths
  simp only [hfield, Value.items]
  split
  · exact hnames vs htexts (hpaths vs hfield)
  · exact hnames [.text Config.defaultAnalyzersPath]
      (List.forall_mem_singleton.mpr (Value.isTextual_text _))
      (List.forall_mem_singleton.mpr (by decide +kernel))

/-- Analyzers are loaded, or there are none. -/
theorem loadAnalyzers_endsWell {config : Config} (htextual : config.IsTextual)
    (hpaths : ∀ vs, config.get .analyzersPath = .tuple vs →
      ∀ v ∈ vs, FileTree.hasNul (Path.ofString v.str) = false)
    (hsearch : ∀ paths, config.analyzerPaths tree tree.workingDirectory = .ok paths →
      ∀ p ∈ paths, tree.Searchable p)
    (hquiet : ∀ paths, config.analyzerPaths tree tree.workingDirectory = .ok paths →
      ∀ q ∈ pluginsUnder tree paths, ∀ r : Registry,
        r.stop? (Registry.pluginTurns tree q) = none) :
    EndsWell (fun _ => True)
      (Attempt.outcome (loadAnalyzers tree config tree.workingDirectory)) := by
  obtain ⟨paths, hfound⟩ := analyzerPaths_ok hproper htextual hpaths
  obtain ⟨excluded, -, -, hexcluded⟩ := htextual.keys .excludeAnalyzers rfl
  have hempty : Registry.empty .cli (config.get .excludeAnalyzers) =
      .ok { kind := .cli, excluded } := by
    rw [Registry.empty, hexcluded]
    rfl
  obtain ⟨counts, hcounts⟩ := scanAll_ok hproper (hsearch paths hfound) (hquiet paths hfound)
    { kind := .cli, excluded }
  simp only [loadAnalyzers, loadRegistry, Attempt.outcome_bind, Attempt.outcome_ofExcept,
    Attempt.outcome_ofLogged, Attempt.outcome_note, Attempt.outcome_pure, Attempt.ok_bind, hfound,
    hempty, hcounts]
  split
  next => rfl
  next =>
    split
    next => rfl
    next => trivial

/-! ## Projects -/

/-- A project that can be looked at: what stands at its path can be searched, and what is around it
too if it is a project file. -/
structure IsOpenProject {π : Type} (tree : FileTree π) (path : String) : Prop where
  canBe : FileTree.hasNul (Path.ofString path) = false
  inside : ∀ p, tree.resolve (tree.workingDirectory.join (Path.ofString path)) = .ok p →
    tree.Searchable p
  beside : ∀ p, tree.resolve (tree.workingDirectory.join (Path.ofString path)) = .ok p →
    tree.isFile p = .ok true → p.name = "pyproject.toml" → tree.Searchable p.parent

theorem loadProject_endsWell {path : String} (hopen : IsOpenProject tree path) :
    EndsWell ProjectOptions.IsNulFree (loadProject tree path tree.workingDirectory) := by
  obtain ⟨p, hp, hnul, -⟩ := hproper.resolve_ok
    (FileTree.hasNul_eq_false_iff.mpr (hproper.absolute hopen.canBe))
  have hresolved : tree.resolve (tree.workingDirectory.join (Path.ofString path)) = .ok p := hp
  have hsearch := hopen.inside p hresolved
  obtain ⟨inside, hinside, hinsideNul⟩ := hproper.sourceFiles_ok hsearch
  obtain ⟨here, hhere⟩ := hsearch.answers.exists?
  obtain ⟨file, hfile⟩ := hsearch.answers.isFile
  -- however the files were found, they are returned unless there are none
  have hreturned : ∀ (root : Path) (files : List Path) (reason : String),
      (∀ q ∈ files, FileTree.hasNul q = false) → EndsWell ProjectOptions.IsNulFree
        (if files.isEmpty = true then .error (.project reason)
          else .ok
            { name := p.toString, root := root.toString, sources := files.map Path.toString }) := by
    intro root files reason hfiles
    split
    · rfl
    · exact List.forall_mem_map.mpr fun q hq => FileTree.hasNul_ofString_toString (hfiles q hq)
  simp only [loadProject, hresolved, hhere, hfile, Attempt.ok_bind]
  split
  next => rfl
  next =>
    split
    next hthere =>
      split
      next hname =>
        obtain ⟨beside, hbeside, hbesideNul⟩ :=
          hproper.sourceFiles_ok (hopen.beside p hresolved (hthere ▸ hfile) hname)
        rw [hbeside]
        exact hreturned p.parent beside _ hbesideNul
      next =>
        split
        next => exact List.forall_mem_singleton.mpr (FileTree.hasNul_ofString_toString hnul)
        next => rfl
    next =>
      rw [hinside]
      exact hreturned p inside _ hinsideNul

/-- Source files that can be looked up, as far as they are named like source files. -/
def AreAnswered {π : Type} (tree : FileTree π) (entries : List String) : Prop :=
  ∀ entry ∈ entries, Text.isBlankText entry = false →
    isSourceFile (tree.workingDirectory.join (Path.ofString entry)) = true →
      tree.Answers (tree.workingDirectory.join (Path.ofString entry))

theorem keepSources_ok {entries : List String} (hentries : ∀ entry ∈ entries,
    isSourceFile (tree.workingDirectory.join (Path.ofString entry)) = true →
      tree.Answers (tree.workingDirectory.join (Path.ofString entry))) : ∃ files,
    Attempt.outcome (keepSources tree tree.workingDirectory entries) = .ok files ∧
      ∀ file ∈ files, FileTree.hasNul (Path.ofString file) = false := by
  induction entries with
  | nil => exact ⟨[], rfl, List.forall_mem_nil _⟩
  | cons entry rest ih =>
      rw [List.forall_mem_cons] at hentries
      obtain ⟨files, hfiles, hnul⟩ := ih hentries.2
      have hleads : ∃ leads, leadsToSource tree
          (tree.workingDirectory.join (Path.ofString entry)) = .ok leads ∧ (leads = true →
            tree.isFile (tree.workingDirectory.join (Path.ofString entry)) = .ok true) := by
        unfold leadsToSource
        split
        next hsource =>
          obtain ⟨file, hfile⟩ := (hentries.1 hsource).isFile
          exact ⟨file, hfile, fun hthere => hthere ▸ hfile⟩
        next => exact ⟨false, rfl, nofun⟩
      obtain ⟨leads, hleads, hfile⟩ := hleads
      simp only [keepSources, Attempt.outcome_bind, Attempt.outcome_ofExcept, hleads,
        Attempt.ok_bind]
      split
      next hthere =>
        obtain ⟨q, hq, hqNul⟩ := hproper.resolve_of_isFile (hfile hthere)
        refine ⟨q.toString :: files, ?_, List.forall_mem_cons.mpr
          ⟨FileTree.hasNul_ofString_toString hqNul, hnul⟩⟩
        simp [hq, hfiles]
      next => exact ⟨files, by simpa using hfiles, hnul⟩

theorem projectOfSources_endsWell {sources : List String} (hsources : AreAnswered tree sources) :
    EndsWell ProjectOptions.IsNulFree
      (Attempt.outcome (projectOfSources tree sources tree.workingDirectory)) := by
  have hgiven : ∀ entry ∈ sources.filter fun s => !Text.isBlankText s,
      isSourceFile (tree.workingDirectory.join (Path.ofString entry)) = true →
        tree.Answers (tree.workingDirectory.join (Path.ofString entry)) := by
    intro entry hentry
    obtain ⟨hmem, hblank⟩ := List.mem_filter.mp hentry
    exact hsources entry hmem (by simpa using hblank)
  obtain ⟨files, hfiles, hnul⟩ := keepSources_ok hproper hgiven
  simp only [projectOfSources]
  split
  next => rfl
  next =>
    simp only [Attempt.outcome_bind, hfiles, Attempt.ok_bind]
    split
    next => rfl
    next => exact hnul

theorem resolveSubject_endsWell {subject : Subject}
    (hpaths : ∀ paths, subject = .projects paths → ∀ p ∈ paths, IsOpenProject tree p)
    (hsources : ∀ files, subject = .sources files → AreAnswered tree files) :
    EndsWell (fun projects => ∀ options ∈ projects, ProjectOptions.IsNulFree options)
      (Attempt.outcome (subject.resolve tree tree.workingDirectory)) := by
  cases subject with
  | sources files =>
      simp only [Subject.resolve, Attempt.outcome_bind]
      refine (projectOfSources_endsWell hproper (hsources files rfl)).bind fun options hoptions => ?_
      exact List.forall_mem_singleton.mpr hoptions
  | projects paths =>
      exact EndsWell.mapM fun p hp => loadProject_endsWell hproper (hpaths paths rfl p hp)

end

/-! ## Whole analyses -/

/-- What an analysis can count on: what it looks for can be looked up, no plugin interrupts the scan,
and the analyzers that are loaded are orderly. -/
structure Config.IsOrderly (tree : FileTree Program) (projects : List String)
    (sources : Option (List String)) (config : Config) : Prop where
  paths : ∀ vs, config.get .analyzersPath = .tuple vs →
    ∀ v ∈ vs, FileTree.hasNul (Path.ofString v.str) = false
  search : ∀ paths, config.analyzerPaths tree tree.workingDirectory = .ok paths →
    ∀ p ∈ paths, tree.Searchable p
  projects : ∀ p ∈ projects, IsOpenProject tree p
  sources : ∀ files ∈ sources, AreAnswered tree files
  imports : ∀ paths, config.analyzerPaths tree tree.workingDirectory = .ok paths →
    ∀ q ∈ pluginsUnder tree paths, ∀ r : Registry, r.stop? (Registry.pluginTurns tree q) = none
  analyzers : ∀ loaded, Attempt.outcome (loadAnalyzers tree config tree.workingDirectory) =
    .ok loaded → ∀ d ∈ loaded.1.descriptors, d.IsOrderly

/-- Every offer that a registry comes to is made on one of its turns. -/
theorem Plugin.Registry.mem_of_mem_reached {r : Registry} {turns : List Turn} {o : Offer}
    (h : o ∈ r.reached turns) : .offer o ∈ turns := by
  induction turns with
  | nil => cases h
  | cons turn rest ih =>
      cases turn with
      | interruption f => cases h
      | offer offered =>
          rw [reached] at h
          rcases List.mem_cons.mp h with rfl | h
          · exact List.mem_cons_self
          · split at h
            · cases h
            · exact List.mem_cons_of_mem _ (ih h)

/-- Every analyzer of a scan is offered by one of its plugins. -/
theorem exists_offer_of_scanAll {tree : FileTree Program} {start : Registry} {paths : List Path}
    {counts : Nat × Nat} (hstart : start.entries = [])
    (hcounts : (Registry.scanAll tree start paths).value.1 = .ok counts) {d : Descriptor}
    (hd : d ∈ (Registry.scanAll tree start paths).value.2.descriptors) :
    ∃ q ∈ pluginsUnder tree paths, ∃ o, .offer o ∈ Registry.pluginTurns tree q ∧
      o.descriptor = d := by
  obtain ⟨e, he, rfl⟩ := List.mem_map.mp hd
  rw [(Registry.scanAll_of_ok hcounts).1, Registry.takeAll, hstart] at he
  obtain ⟨hmem, -⟩ := (mem_putAll he).resolve_left List.not_mem_nil
  obtain ⟨o, ho, hoffer⟩ := List.mem_map.mp hmem
  have hreached := (List.mem_filter.mp ho).1
  obtain ⟨root, hroot, hturn⟩ := List.mem_flatMap.mp (Registry.mem_of_mem_reached hreached)
  unfold Registry.scanTurns at hturn
  split at hturn
  next found hfound =>
    obtain ⟨q, hq, hturn⟩ := List.mem_flatMap.mp hturn
    exact ⟨q, List.mem_flatMap.mpr ⟨root, hroot, by rwa [hfound]⟩, o, hturn, hoffer⟩
  next => cases hturn

/-- It is enough that all analyzers are orderly that plugins offer. -/
theorem isOrderly_of_offers {tree : FileTree Program} {config : Config} {directory : Path}
    (h : ∀ paths, config.analyzerPaths tree directory = .ok paths →
      ∀ q ∈ pluginsUnder tree paths, ∀ o, .offer o ∈ Registry.pluginTurns tree q →
        o.descriptor.IsOrderly)
    {loaded : Registry × Nat × Nat}
    (hload : Attempt.outcome (loadAnalyzers tree config directory) = .ok loaded) :
    ∀ d ∈ loaded.1.descriptors, d.IsOrderly := by
  obtain ⟨paths, start, files, analyzers, hpaths, hstart, hcounts, -, hloaded⟩ :=
    scanAll_of_loadAnalyzers hload
  intro d hd
  rw [hloaded] at hd
  obtain ⟨q, hq, o, ho, rfl⟩ := exists_offer_of_scanAll hstart hcounts hd
  exact h paths hpaths q hq o ho

/-- What is ready when the first file of an orderly analysis is checked. -/
structure Prepared.IsOrderly (p : Prepared) : Prop where
  analyzers : ∀ d ∈ p.registry.descriptors, d.IsOrderly
  projects : ∀ options ∈ p.projects, options.IsNulFree

section

variable {tree : FileTree Program} {projects : List String} {config : Config}
  {sources : Option (List String)} (hproper : tree.Proper) (htextual : config.IsTextual)
  (horderly : config.IsOrderly tree projects sources)

include hproper htextual horderly

theorem prepare_endsWell :
    EndsWell Prepared.IsOrderly
      (Attempt.outcome (prepare tree projects sources config tree.workingDirectory)) := by
  obtain ⟨mappings, hmappings, hcodes⟩ := htextual.severityMappings
  obtain ⟨ignored, hignored⟩ := htextual.texts .ignoreFiles rfl
  have hload := (loadAnalyzers_endsWell hproper htextual horderly.paths horderly.search
    horderly.imports).and horderly.analyzers
  simp only [prepare, Attempt.outcome_bind, Attempt.outcome_ofExcept, Attempt.outcome_pure, hmappings,
    hignored, Attempt.ok_bind]
  refine (SeverityMappings.ensureValid_endsWell hcodes).bind fun _ _ => ?_
  refine (Subject.of_endsWell projects sources).bind fun subject hsubject => ?_
  refine hload.bind fun loaded hloaded => ?_
  have hpaths : ∀ paths, subject = .projects paths → ∀ p ∈ paths, IsOpenProject tree p :=
    fun paths hpaths => hsubject.1 paths hpaths ▸ horderly.projects
  have hfiles : ∀ files, subject = .sources files → AreAnswered tree files :=
    fun files hfiles => horderly.sources files (hsubject.2 files hfiles)
  exact (resolveSubject_endsWell hproper hpaths hfiles).bind fun options hoptions =>
    ⟨hloaded.2, hoptions⟩

/-- An orderly analysis gives messages that can be written, or fails with one of the host's own
failures. -/
theorem analyze_endsWell :
    EndsWell (fun a => a.exitCode = .ofMessages (some a.messages) ∧ ∀ m ∈ a.messages, m.IsWritable)
      (Attempt.outcome (analyze tree projects sources config tree.workingDirectory)) := by
  rw [analyze_eq_prepare_finish, Attempt.outcome_bind]
  refine (prepare_endsWell hproper htextual horderly).bind fun p hp => ?_
  rw [Prepared.finish, Attempt.outcome_bind, runProjects_outcome Checker.faithful_empty]
  have hmessages : EndsWell (fun ms => ∀ m ∈ ms, m.IsWritable)
      (collect (messagesAlone p.registry tree p.ignored p.mappings) p.projects) :=
    EndsWell.collect fun options hoptions =>
      messagesAlone_endsWell hp.analyzers (hp.projects options hoptions)
  exact hmessages.bind fun messages hwritable => ⟨rfl, hwritable⟩

end

end Assay
