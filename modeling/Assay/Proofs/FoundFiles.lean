import Assay.Proofs.Discovery
import Assay.Proofs.Globs

/-! # Which files are found

What is found below a directory is known from the tree alone: a file stands at its place, and the
names of the directories between the searched one and the file decide whether it is left out. The
names of the searched directory and of the file itself do not, and neither does the order in which
the names in a directory are listed.
-/

namespace Assay

/-! ## Names -/

/-- The stem and the suffix of a name are all of it. -/
theorem Path.splitSuffix_append (name : String) :
    (splitSuffix name).1 ++ (splitSuffix name).2 = name := by
  apply String.toList_injective
  simp only [splitSuffix]
  split
  next => simp
  next =>
    rw [String.toList_append, String.toList_ofList, String.toList_ofList]
    exact List.prefix_iff_eq_append.mp (List.take_prefix _ _)

theorem isPluginFile_congr {p q : Path} (h : p.name = q.name) :
    isPluginFile p = isPluginFile q := by
  rw [isPluginFile, isPluginFile, Path.suffix, Path.suffix, Path.stem, Path.stem, h]

theorem exists_stem_of_isPluginFile {p : Path} (h : isPluginFile p = true) :
    ∃ stem, p.name = stem ++ ".py" := by
  have hsuffix : p.suffix = ".py" := of_decide_eq_true (Bool.and_eq_true_iff.mp h).1
  refine ⟨p.stem, ?_⟩
  rw [← hsuffix]
  exact (Path.splitSuffix_append p.name).symm

/-- The star takes nothing as well, so the ending may be all of the name. -/
theorem accepts_source_iff {name : String} :
    Glob.accepts "*.py" name = true ↔ ∃ stem, name = stem ++ ".py" := by
  have hplain : ∀ p ∈ ['.', 'p', 'y'], p ≠ '*' ∧ p ≠ '?' ∧ p ≠ '[' := by simp
  rw [Glob.accepts_iff]
  simp only [String.reduceToList, Glob.covers_star_iff, Glob.covers_plain_iff hplain]
  constructor
  · rintro ⟨front, rest, hname, rfl⟩
    refine ⟨String.ofList front, String.toList_injective ?_⟩
    simpa using hname
  · rintro ⟨stem, rfl⟩
    exact ⟨stem.toList, _, by simp, rfl⟩

namespace Path

/-- Names added to a path, one after the other. -/
def below (p : Path) (names : List String) : Path := { p with parts := p.parts ++ names }

/-- The path from the root to a place. -/
def ofPlace (place : List String) : Path := { root := .slash, parts := place }

variable {p : Path} {dirs : List String} {name : String}

theorem below_nil (p : Path) : p.below [] = p := by simp [below]

theorem below_child (p : Path) (name : String) (names : List String) :
    (p.child name).below names = p.below (name :: names) := by simp [below, child]

theorem child_below (p : Path) (names : List String) (name : String) :
    (p.below names).child name = p.below (names ++ [name]) := by simp [below, child]

theorem name_below : (p.below (dirs ++ [name])).name = name := by simp [below, Path.name]

theorem name_ofPlace {place : List String} : (ofPlace (place ++ (dirs ++ [name]))).name = name := by
  simp [ofPlace, Path.name]

end Path

namespace FileTree

variable {π : Type} {t : FileTree π}

/-- What stands at a place is a file. -/
def IsFileAt (t : FileTree π) (place : List String) : Prop :=
  ∃ bytes program, t.locate (.ofPlace place) = .ok (place, .file bytes program)

theorem directoriesBelow_below {root : Path} {dirs : List String} {name : String} :
    directoriesBelow root (root.below (dirs ++ [name])) = dirs := by
  simp [directoriesBelow, Path.below]

/-! ## Ways down -/

section Ways

/-- What stands below a path can be looked up from it: no path to it has too many bytes. -/
def HasRoom (t : FileTree π) (root : Path) : Prop :=
  ∀ place names, t.locate root = .ok (place, .directory) → (t.entry? (place ++ names)).isSome →
    (root.below names).isTooLong = false

/-- What stands below a place can be looked up from the path to it. -/
theorem Clear.hasRoom_ofPlace (ht : t.Clear) {place : List String} (hup : ".." ∉ place) :
    t.HasRoom (.ofPlace place) := by
  intro q names hplace hentry
  obtain ⟨e, he⟩ := Option.isSome_iff_exists.mp hentry
  have hwalk : t.walk [] place = some q := (ht.walk_of_locate hplace).1
  have hq : q = place := by simpa [climb_eq_append hup] using walk_eq_climb hwalk
  exact hq ▸ ht.fits _ e he

theorem HasRoom.child {root : Path} {place : List String} {name : String} (h : t.HasRoom root)
    (hroot : t.locate root = .ok (place, .directory))
    (hchild : t.locate (root.child name) = .ok (place ++ [name], .directory)) :
    t.HasRoom (root.child name) := by
  intro q names hq hentry
  cases hchild.symm.trans hq
  rw [Path.below_child]
  exact h place (name :: names) hroot (by simpa using hentry)

variable (ht : t.Clear) {root : Path} {place : List String}
  (hroot : t.locate root = .ok (place, .directory)) (hroom : t.HasRoom root)

include ht hroot hroom

theorem locate_child_of_entry {name : String} {e : Entry π}
    (hentry : t.entry? (place ++ [name]) = some e) :
    t.locate (root.child name) = .ok (place ++ [name], e) :=
  ht.locate_child hroot hentry (hroom place [name] hroot (Option.isSome_of_eq_some hentry))

/-- A directory that is reached stands as many names below the place of the first. -/
theorem Reaches.locate {p : Path} (h : t.Reaches root p) :
    ∃ dirs, p = root.below dirs ∧ t.locate p = .ok (place ++ dirs, .directory) ∧ t.HasRoom p := by
  induction h generalizing place with
  | here p => exact ⟨[], (Path.below_nil p).symm, by simpa using hroot, hroom⟩
  | @under p q name _ hown _ ih =>
      obtain ⟨other, hother, hentry⟩ := isOwnDirectory_child.mp hown
      cases hroot.symm.trans hother
      have hchild := locate_child_of_entry ht hroot hroom hentry
      obtain ⟨dirs, rfl, hq, hqRoom⟩ := ih hchild (hroom.child hroot hchild)
      exact ⟨name :: dirs, Path.below_child p name dirs, by simpa using hq, hqRoom⟩

theorem reaches_below {dirs : List String} (hwalk : t.walk place dirs = some (place ++ dirs))
    (hend : t.entry? (place ++ dirs) = some .directory) : t.Reaches root (root.below dirs) := by
  induction dirs generalizing root place with
  | nil =>
      rw [Path.below_nil]
      exact .here root
  | cons name dirs ih =>
      rw [List.append_cons] at hwalk hend
      obtain ⟨_, ⟨hup, _⟩ | ⟨_, _, hrest⟩⟩ := of_walk_cons hwalk
      · exact absurd (by simp [hup]) (ht.up_not_mem hend)
      · -- a directory stands there: either the walk goes on or it ends there
        have hentry : t.entry? (place ++ [name]) = some .directory := by
          cases dirs with
          | nil => simpa using hend
          | cons next dirs => exact (of_walk_cons hrest).1
        have hchild := locate_child_of_entry ht hroot hroom hentry
        rw [← Path.below_child]
        exact .under
          ⟨place, hroot, ht.isClosed_eq_false place, Option.isSome_of_eq_some hentry⟩
          (isOwnDirectory_child.mpr ⟨place, hroot, hentry⟩)
          (ih hchild (hroom.child hroot hchild) hrest hend)

/-- Below a directory names lead where they lead below its place. -/
theorem locate_below_iff {dirs : List String} {name : String} {e : Entry π} :
    t.locate (root.below (dirs ++ [name])) = .ok (place ++ (dirs ++ [name]), e) ↔
      t.locate (.ofPlace (place ++ (dirs ++ [name]))) = .ok (place ++ (dirs ++ [name]), e) := by
  refine ⟨ht.locate_resolved, fun hplace => ?_⟩
  have hwalk : t.walk [] (place ++ (dirs ++ [name])) = some (place ++ (dirs ++ [name])) :=
    (ht.walk_of_locate hplace).1
  have hentry := entry?_of_locate hplace
  rw [← List.append_assoc] at hwalk hentry ⊢
  -- the directories are reached one after the other, and the name stands in the last of them
  obtain ⟨hdirs, hlast⟩ := ht.walk_front hwalk hentry
  have hdirectory : t.entry? (place ++ dirs) = some .directory := (of_walk_cons hlast).1
  have hreaches := reaches_below ht hroot hroom (ht.walk_front hdirs hdirectory).2 hdirectory
  obtain ⟨others, hothers, hlocate, hroom⟩ := hreaches.locate ht hroot hroom
  have hsame : dirs = others := by
    simpa [Path.below] using congrArg Path.parts hothers
  subst hsame
  rw [← Path.child_below]
  exact locate_child_of_entry ht hlocate hroom hentry

omit hroot in
/-- Everything below a path can be looked up that has room for it. -/
theorem Clear.searchable (hroot : t.Answers root) : t.Searchable root := by
  refine ⟨hroot, fun hdirectory p f hp hf => ?_, fun p name hp hname => ?_⟩
  · obtain ⟨place, hplace⟩ := isDirectory_iff.mp hdirectory
    obtain ⟨dirs, -, hlocate, -⟩ := hp.locate ht hplace hroom
    rw [list, hlocate] at hf
    simp [ht.isClosed_eq_false] at hf
  · have hstart : ∃ place, t.locate root = .ok (place, .directory) := by
      cases hp with
      | here => exact ⟨_, hname.choose_spec.1⟩
      | under hfirst => exact ⟨_, hfirst.choose_spec.1⟩
    obtain ⟨place, hplace⟩ := hstart
    obtain ⟨dirs, rfl, hlocate, hpRoom⟩ := hp.locate ht hplace hroom
    obtain ⟨q, hq, -, hentry⟩ := hname
    cases hlocate.symm.trans hq
    obtain ⟨e, he⟩ := Option.isSome_iff_exists.mp hentry
    exact answers_of_locate (locate_child_of_entry ht hlocate hpRoom he)

/-- The search finds all files with the ending, in whatever directories they are. -/
theorem mem_select_iff {x : Path} :
    .ok x ∈ t.select [.anyDepth, .glob "*.py"] root ∧ t.isFile x = .ok true ↔
      ∃ dirs name, x = root.below (dirs ++ [name]) ∧ t.IsFileAt (place ++ (dirs ++ [name])) ∧
        ∃ stem, name = stem ++ ".py" := by
  rw [mem_select_sourceFiles ht.toPlain]
  constructor
  · rintro ⟨⟨p, name, hreaches, hname, haccepts, rfl⟩, hfile⟩
    -- the directory in which the name is listed was reached, so its place is known
    obtain ⟨dirs, rfl, hp, hpRoom⟩ := hreaches.locate ht hroot hroom
    obtain ⟨other, hother, -, hentry⟩ := hname
    cases hp.symm.trans hother
    obtain ⟨e, he⟩ := Option.isSome_iff_exists.mp hentry
    have hchild := locate_child_of_entry ht hp hpRoom he
    obtain ⟨q, bytes, program, hlocate⟩ := isFile_iff.mp hfile
    cases hchild.symm.trans hlocate
    rw [Path.child_below, List.append_assoc, locate_below_iff ht hroot hroom] at hchild
    exact ⟨dirs, name, Path.child_below root dirs name, ⟨bytes, program, hchild⟩,
      accepts_source_iff.mp haccepts⟩
  · rintro ⟨dirs, name, rfl, ⟨bytes, program, hfile⟩, hname⟩
    have hwalk : t.walk [] (place ++ (dirs ++ [name])) = some (place ++ (dirs ++ [name])) :=
      (ht.walk_of_locate hfile).1
    have hentry := entry?_of_locate hfile
    rw [← List.append_assoc] at hwalk hentry
    -- the file is listed where the directories lead, and they are reached one after the other
    obtain ⟨hdirs, hlast⟩ := ht.walk_front hwalk hentry
    have hdirectory : t.entry? (place ++ dirs) = some .directory := (of_walk_cons hlast).1
    have hreaches := reaches_below ht hroot hroom (ht.walk_front hdirs hdirectory).2 hdirectory
    obtain ⟨others, hothers, hlocate, -⟩ := hreaches.locate ht hroot hroom
    have hsame : dirs = others := by
      simpa [Path.below] using congrArg Path.parts hothers
    subst hsame
    exact ⟨⟨root.below dirs, name, hreaches,
        ⟨_, hlocate, ht.isClosed_eq_false _, Option.isSome_of_eq_some hentry⟩,
        accepts_source_iff.mpr hname, (Path.child_below root dirs name).symm⟩,
      isFile_iff.mpr ⟨_, bytes, program, (locate_below_iff ht hroot hroom).mpr hfile⟩⟩

/-- What is found and kept is resolved to its place. -/
theorem found_exact (skip : String → Bool) (wants : Path → Bool) :
    ∃ files, t.filesIn (fun p => (directoriesBelow root p).any skip) wants
        (t.select [.anyDepth, .glob "*.py"] root) = .ok files ∧
      Path.InOrder files ∧ ∀ q, q ∈ files ↔ ∃ dirs name,
        q = .ofPlace (place ++ (dirs ++ [name])) ∧ t.IsFileAt q.parts ∧
          (∃ stem, name = stem ++ ".py") ∧ (∀ d ∈ dirs, skip d = false) ∧
            wants (root.below (dirs ++ [name])) = true := by
  have hdirectory : t.isDirectory root = .ok true := isDirectory_iff.mpr ⟨place, hroot⟩
  have hsearch : t.Searchable root := Clear.searchable ht hroom (answers_of_locate hroot)
  have hresolve : ∀ dirs name, t.IsFileAt (place ++ (dirs ++ [name])) →
      t.resolve (root.below (dirs ++ [name])) = .ok (.ofPlace (place ++ (dirs ++ [name]))) := by
    rintro dirs name ⟨bytes, program, hfile⟩
    exact ht.resolve_of_locate ((locate_below_iff ht hroot hroom).mpr hfile)
  obtain ⟨files, hfiles, hmem⟩ := mem_filesIn (fun p => (directoriesBelow root p).any skip) wants
    (fun x hx => hsearch.of_mem_select hdirectory hx) fun p hp hfile => by
      obtain ⟨dirs, name, rfl, hat, -⟩ := (mem_select_iff ht hroot hroom).mp ⟨hp, hfile⟩
      exact ⟨_, hresolve dirs name hat⟩
  refine ⟨files, hfiles, filesIn_inOrder hfiles, fun q => (hmem q).trans ?_⟩
  constructor
  · rintro ⟨p, hp, hskip, hfile, hwants, hq⟩
    obtain ⟨dirs, name, rfl, hat, hname⟩ := (mem_select_iff ht hroot hroom).mp ⟨hp, hfile⟩
    cases (hresolve dirs name hat).symm.trans hq
    rw [directoriesBelow_below, List.any_eq_false] at hskip
    exact ⟨dirs, name, rfl, hat, hname, fun d hd => by simpa using hskip d hd, hwants⟩
  · rintro ⟨dirs, name, rfl, hat, hname, hskip, hwants⟩
    obtain ⟨hp, hfile⟩ := (mem_select_iff ht hroot hroom).mpr ⟨dirs, name, rfl, hat, hname⟩
    refine ⟨_, hp, ?_, hfile, hwants, hresolve dirs name hat⟩
    rw [directoriesBelow_below, List.any_eq_false]
    exact fun d hd => by simp [hskip d hd]

/-- The source files below a directory: no directory on the way has a name that is skipped. -/
theorem sourceFiles_exact (skipped : List String) :
    ∃ files, t.sourceFiles root [] skipped = .ok files ∧ Path.InOrder files ∧
      ∀ q, q ∈ files ↔ ∃ dirs name, q = .ofPlace (place ++ (dirs ++ [name])) ∧
        t.IsFileAt q.parts ∧ (∃ stem, name = stem ++ ".py") ∧
          ∀ d ∈ dirs, d ∉ skippedDirectories ∧ d ∉ skipped := by
  have hdirectory : t.isDirectory root = .ok true := isDirectory_iff.mpr ⟨place, hroot⟩
  obtain ⟨files, hfiles, horder, hmem⟩ := found_exact ht hroot hroom
    (fun d => (skippedDirectories ++ skipped).contains d) fun _ => true
  have hsource : t.sourceFiles root [] skipped = .ok files := by
    simpa [sourceFiles, glob_sourceFiles_of_directory hdirectory] using hfiles
  refine ⟨files, hsource, horder, fun q => (hmem q).trans ?_⟩
  simp only [List.contains_eq_mem, List.mem_append, decide_eq_false_iff_not, not_or, and_true]

/-- The plugins below a directory: no directory on the way has a name that is skipped or begins with
a point. -/
theorem pluginFiles_exact :
    ∃ files, t.pluginFiles root = .ok files ∧ Path.InOrder files ∧
      ∀ q, q ∈ files ↔ ∃ dirs name, q = .ofPlace (place ++ (dirs ++ [name])) ∧
        t.IsFileAt q.parts ∧ isPluginFile q = true ∧
          ∀ d ∈ dirs, d ∉ skippedDirectories ∧ d.startsWith "." = false := by
  have hdirectory : t.isDirectory root = .ok true := isDirectory_iff.mpr ⟨place, hroot⟩
  have hfile : t.isFile root = .ok false := by
    obtain ⟨here, hhere⟩ := (answers_of_locate hroot).isFile
    cases here with
    | false => exact hhere
    | true =>
        obtain ⟨_, _, _, hlocate⟩ := isFile_iff.mp hhere
        cases hroot.symm.trans hlocate
  obtain ⟨files, hfiles, horder, hmem⟩ := found_exact ht hroot hroom
    (fun d => skippedDirectories.contains d || d.startsWith ".") isPluginFile
  have hplugin : t.pluginFiles root = .ok files := by
    simp only [pluginFiles, hfile, hdirectory, glob_sourceFiles_of_directory hdirectory,
      Attempt.ok_bind, Bool.false_eq_true, if_false, Bool.not_true]
    exact hfiles
  refine ⟨files, hplugin, horder, fun q => (hmem q).trans ?_⟩
  refine exists_congr fun dirs => exists_congr fun name => and_congr_right ?_
  rintro rfl
  refine and_congr_right fun _ => ?_
  have hsame : isPluginFile (root.below (dirs ++ [name])) =
      isPluginFile (.ofPlace (place ++ (dirs ++ [name]))) :=
    isPluginFile_congr (Path.name_below.trans Path.name_ofPlace.symm)
  have hstem : isPluginFile (.ofPlace (place ++ (dirs ++ [name]))) = true →
      ∃ stem, name = stem ++ ".py" := by
    intro hplugin
    obtain ⟨stem, hstem⟩ := exists_stem_of_isPluginFile hplugin
    exact ⟨stem, Path.name_ofPlace.symm.trans hstem⟩
  -- the name of a plugin has the ending that the search asks for
  simp only [hsame, List.contains_eq_mem, Bool.or_eq_false_iff, decide_eq_false_iff_not]
  constructor
  · rintro ⟨_, hkept, hplugin⟩
    exact ⟨hplugin, hkept⟩
  · rintro ⟨hplugin, hkept⟩
    exact ⟨hstem hplugin, hkept, hplugin⟩

end Ways

/-! ## Any listing -/

theorem entry?_eq_some_iff (hplaces : (t.entries.map (·.1)).Nodup) {place : List String}
    (hplace : place ≠ []) {e : Entry π} : t.entry? place = some e ↔ (place, e) ∈ t.entries := by
  refine ⟨mem_entries_of_eq_some hplace, fun hmem => ?_⟩
  obtain ⟨found, hfound⟩ :=
    Option.isSome_iff_exists.mp ((entry?_isSome_iff hplace).mpr ⟨e, hmem⟩)
  cases List.inj_on_of_nodup_map hplaces hmem (mem_entries_of_eq_some hplace hfound) rfl
  exact hfound

/-- The same tree, whatever the order in which its directories list their names. -/
structure SameEntries (t other : FileTree π) : Prop where
  workingDirectory : other.workingDirectory = t.workingDirectory
  closedPlaces : other.closedPlaces = t.closedPlaces
  entry : ∀ place, other.entry? place = t.entry? place

namespace SameEntries

variable {other : FileTree π}

theorem refl (t : FileTree π) : t.SameEntries t := ⟨rfl, rfl, fun _ => rfl⟩

theorem symm (h : t.SameEntries other) : other.SameEntries t :=
  ⟨h.workingDirectory.symm, h.closedPlaces.symm, fun place => (h.entry place).symm⟩

/-- Entries with places of their own can be listed in any order. -/
theorem of_perm {entries : List (List String × Entry π)} (hperm : entries.Perm t.entries)
    (hplaces : (t.entries.map (·.1)).Nodup) : t.SameEntries { t with entries := entries } := by
  refine ⟨rfl, rfl, fun place => ?_⟩
  by_cases hplace : place = []
  · subst hplace
    rfl
  · refine Option.ext fun e => ?_
    rw [entry?_eq_some_iff ((hperm.map _).nodup_iff.mpr hplaces) hplace,
      entry?_eq_some_iff hplaces hplace]
    exact hperm.mem_iff

theorem addsFiles (h : t.SameEntries other) : t.AddsFiles other :=
  ⟨h.workingDirectory, fun place _ he => (h.entry place).trans he,
    fun place _ he => .inl ((h.entry place).symm.trans he)⟩

theorem clear (h : t.SameEntries other) (ht : t.Clear) : other.Clear where
  noLink place target he := ht.noLink place target ((h.entry place).symm.trans he)
  names place e he := ht.names place e ((h.entry place).symm.trans he)
  isOpen := h.closedPlaces.trans ht.isOpen
  short place e he := ht.short place e ((h.entry place).symm.trans he)
  fits place e he := ht.fits place e ((h.entry place).symm.trans he)

theorem locate_eq_ok_iff (h : t.SameEntries other) (ht : t.Clear) {p : Path}
    {found : List String × Entry π} : other.locate p = .ok found ↔ t.locate p = .ok found :=
  ⟨h.symm.addsFiles.locate_of_locate (h.clear ht) ht,
    h.addsFiles.locate_of_locate ht (h.clear ht)⟩

theorem hasRoom (h : t.SameEntries other) (ht : t.Clear) {root : Path} (hroom : t.HasRoom root) :
    other.HasRoom root := by
  intro place names hplace hentry
  rw [h.locate_eq_ok_iff ht] at hplace
  rw [h.entry] at hentry
  exact hroom place names hplace hentry

theorem isFileAt_iff (h : t.SameEntries other) (ht : t.Clear) {place : List String} :
    other.IsFileAt place ↔ t.IsFileAt place := by
  simp only [IsFileAt, h.locate_eq_ok_iff ht]

end SameEntries

/-- Discovery below a directory is exact: each file is found that stands there under the name of a
source file or a plugin, unless a directory between has a name that is left out. The files come in
the order of their names, whatever the order in which directories list them. -/
theorem discovery_exact (ht : t.Clear) {root : Path} {place : List String}
    (hroot : t.locate root = .ok (place, .directory)) (hroom : t.HasRoom root)
    (skipped : List String) :
    (∃ files, (∀ other, t.SameEntries other → other.sourceFiles root [] skipped = .ok files) ∧
      Path.InOrder files ∧ ∀ q, q ∈ files ↔ ∃ dirs name,
        q = .ofPlace (place ++ (dirs ++ [name])) ∧ t.IsFileAt q.parts ∧
          (∃ stem, name = stem ++ ".py") ∧ ∀ d ∈ dirs, d ∉ skippedDirectories ∧ d ∉ skipped) ∧
    ∃ files, (∀ other, t.SameEntries other → other.pluginFiles root = .ok files) ∧
      Path.InOrder files ∧ ∀ q, q ∈ files ↔ ∃ dirs name,
        q = .ofPlace (place ++ (dirs ++ [name])) ∧ t.IsFileAt q.parts ∧ isPluginFile q = true ∧
          ∀ d ∈ dirs, d ∉ skippedDirectories ∧ d.startsWith "." = false := by
  constructor
  · obtain ⟨files, hfiles, horder, hmem⟩ := sourceFiles_exact ht hroot hroom skipped
    refine ⟨files, fun other hother => ?_, horder, hmem⟩
    obtain ⟨others, hothers, hordered, hmembers⟩ := sourceFiles_exact (hother.clear ht)
      ((hother.locate_eq_ok_iff ht).mpr hroot) (hother.hasRoom ht hroom) skipped
    rw [hothers, hordered.eq_of_mem_iff horder fun q => ?_]
    rw [hmembers, hmem]
    simp only [hother.isFileAt_iff ht]
  · obtain ⟨files, hfiles, horder, hmem⟩ := pluginFiles_exact ht hroot hroom
    refine ⟨files, fun other hother => ?_, horder, hmem⟩
    obtain ⟨others, hothers, hordered, hmembers⟩ := pluginFiles_exact (hother.clear ht)
      ((hother.locate_eq_ok_iff ht).mpr hroot) (hother.hasRoom ht hroom)
    rw [hothers, hordered.eq_of_mem_iff horder fun q => ?_]
    rw [hmembers, hmem]
    simp only [hother.isFileAt_iff ht]

/-- A directory with the name of one that is left out. Of the directories in it some are left out,
one is named like a source file, and two come in another order than the texts of their paths. -/
def searched : FileTree Unit :=
  { entries :=
      [(["build"], .directory), (["build", "a-b"], .directory), (["build", "a"], .directory),
        (["build", "a-b", "venv"], .file [] none), (["build", "a-b", "x.py"], .file [] none),
        (["build", "a", "x.py"], .file [] none), (["build", "dist"], .directory),
        (["build", "dist", "x.py"], .file [] none), (["build", "m.py"], .directory),
        (["build", "m.py", "My_Analyzer.py"], .file [] none), (["build", ".h"], .directory),
        (["build", ".h", "analyzer.py"], .file [] none), (["build", "old"], .directory),
        (["build", "old", "analyzer.py"], .file [] none)] }

theorem discovery_exact_searched :
    (searched.Clear ∧ searched.HasRoom (.ofPlace ["build"]) ∧
      searched.locate (.ofPlace ["build"]) = .ok (["build"], .directory)) ∧
    ∀ entries, entries.Perm searched.entries →
      { searched with entries := entries }.sourceFiles (.ofPlace ["build"]) [] ["old"] =
          .ok [.ofPlace ["build", ".h", "analyzer.py"], .ofPlace ["build", "a", "x.py"],
            .ofPlace ["build", "a-b", "x.py"], .ofPlace ["build", "m.py", "My_Analyzer.py"]] ∧
        { searched with entries := entries }.pluginFiles (.ofPlace ["build"]) =
          .ok [.ofPlace ["build", "m.py", "My_Analyzer.py"],
            .ofPlace ["build", "old", "analyzer.py"]] := by
  have hclear : searched.Clear := by
    refine .of_entries ?_ (by decide +kernel) rfl
    simp [searched]
  have hroom : searched.HasRoom (.ofPlace ["build"]) := hclear.hasRoom_ofPlace (by decide)
  have hroot : searched.locate (.ofPlace ["build"]) = .ok (["build"], .directory) := by rfl
  obtain ⟨⟨sources, hsources, _⟩, plugins, hplugins, _⟩ := discovery_exact hclear hroot hroom ["old"]
  refine ⟨⟨hclear, hroom, hroot⟩, fun entries hperm => ?_⟩
  have hsame := SameEntries.of_perm hperm (by decide +kernel)
  rw [hsources _ hsame, hplugins _ hsame, ← hsources _ (.refl searched),
    ← hplugins _ (.refl searched)]
  decide +kernel

end FileTree

end Assay
