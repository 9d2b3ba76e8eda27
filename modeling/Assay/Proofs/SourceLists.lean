import Assay.Proofs.FoundFiles
import Assay.Proofs.LinkEnds
import Assay.Proofs.Projects

/-! # Lists of source files

A list of entries has the source files that its entries have by themselves, unless the system refuses
to look one of them up: the list fails then, although such an entry is no source file. One entry alone
is analyzed like the project at its path, however the path is spelled: a list goes by the name in the
path that is given and a project by the name in the one that it resolves to, but without links the
last name of a path to a file stays.
-/

namespace Assay

open Check Plugin

/-! ## Names of source files -/

theorem isSourceFile_congr {p q : Path} (h : p.name = q.name) :
    isSourceFile p = isSourceFile q := by
  rw [isSourceFile, isSourceFile, Path.suffix, Path.suffix, h]

theorem name_ne_of_isSourceFile {p : Path} (h : isSourceFile p = true) :
    p.name ≠ "" ∧ p.name ≠ ".." ∧ p.name ≠ "pyproject.toml" := by
  have hother : ∀ name : String, isSourceFile { parts := [name] } = false → p.name ≠ name := by
    intro name hname hp
    have hcongr : isSourceFile p = isSourceFile { parts := [name] } := isSourceFile_congr hp
    rw [h, hname] at hcongr
    cases hcongr
  exact ⟨hother "" (by decide), hother ".." (by decide), hother "pyproject.toml" (by decide)⟩

namespace FileTree

variable {π : Type} {t : FileTree π}

theorem exists_absolute_concat (p : Path) (hname : p.name ≠ "") :
    ∃ front, (t.absolute p).parts = front ++ [p.name] := by
  rcases List.eq_nil_or_concat p.parts with hnil | ⟨front, name, hparts⟩
  · exact absurd (by rw [Path.name, hnil]; rfl) hname
  · rw [List.concat_eq_append] at hparts
    have hlast : p.name = name := by rw [Path.name, hparts, List.getLast?_concat]; rfl
    unfold absolute Path.join
    split
    next => exact ⟨front, by rw [hparts, hlast]⟩
    next => exact ⟨t.workingDirectory.parts ++ front, by simp [hparts, hlast]⟩

/-- Where a path leads has the last name of the path. -/
theorem Plain.name_ofPlace (ht : t.Plain) {p : Path} {place : List String} {e : Entry π}
    (hp : t.locate p = .ok (place, e)) (hname : p.name ≠ "") (hup : p.name ≠ "..") :
    (Path.ofPlace place).name = p.name := by
  obtain ⟨front, hparts⟩ := exists_absolute_concat (t := t) p hname
  have hplace := walk_eq_climb (ht.walk_of_locate hp).1
  rw [hparts, climb, List.foldl_append, ← climb] at hplace
  have hconcat : place = climb [] front ++ [p.name] := hplace.trans (climb_cons_of_ne hup)
  rw [Path.ofPlace, Path.name, hconcat, List.getLast?_concat]
  rfl

/-! ## Where paths resolve to -/

/-- A place that the system comes to along its own names: each directory on the way is open, and no
name has too many bytes. -/
inductive Followed (t : FileTree π) : List String → Prop where
  | root : Followed t []
  | under {place : List String} {name : String} (hplace : Followed t place)
      (hdirectory : t.entry? place = some .directory) (hopen : t.isClosed place = false)
      (hup : name ≠ "..") (hshort : name.utf8ByteSize ≤ longestName)
      (hnext : (t.entry? (place ++ [name])).isSome) : Followed t (place ++ [name])

theorem Followed.dropLast {place : List String} (h : t.Followed place) :
    t.Followed place.dropLast := by
  cases h with
  | root => exact .root
  | under hplace => rwa [List.dropLast_concat]

/-- Wherever names lead, the names of that place lead there as well. -/
theorem Plain.followed_of_follow (ht : t.Plain) {fuel links : Nat} {place rest q : List String}
    (hplace : t.Followed place) (hq : t.follow fuel links place rest = .ok q) : t.Followed q := by
  induction fuel generalizing links place rest with
  | zero => cases hq
  | succ fuel ih =>
      cases rest with
      | nil =>
          cases hq
          exact hplace
      | cons name rest =>
          unfold follow at hq
          split at hq
          next hdirectory =>
            split at hq
            next => cases hq
            next hopen =>
              split at hq
              next => exact ih hplace.dropLast hq
              next hup =>
                split at hq
                next => cases hq
                next hshort =>
                  simp only at hq
                  split at hq
                  next => cases hq
                  next target htarget => exact absurd htarget (ht.noLink _ target)
                  next e _ he =>
                    refine ih (.under hplace hdirectory (Bool.eq_false_iff.mpr hopen) ?_
                      (Nat.not_lt.mp hshort) (Option.isSome_of_eq_some he)) hq
                    exact fun hname => hup (beq_iff_eq.mpr hname)
          next => cases hq

theorem Followed.follow (ht : t.Plain) {place : List String} (h : t.Followed place)
    (links fuel : Nat) (rest : List String) :
    t.follow (place.length + fuel) links [] (place ++ rest) = t.follow fuel links place rest := by
  induction h generalizing fuel rest with
  | root => rw [List.length_nil, Nat.zero_add, List.nil_append]
  | @under place name hplace hdirectory hopen hup hshort hnext ih =>
      have hlength : (place ++ [name]).length + fuel = place.length + (fuel + 1) := by
        rw [List.length_append, List.length_singleton]
        omega
      obtain ⟨e, he⟩ := Option.isSome_iff_exists.mp hnext
      rw [hlength, List.append_assoc, List.singleton_append, ih (fuel + 1) (name :: rest)]
      cases e with
      | link target => exact absurd he (ht.noLink _ target)
      | file | directory =>
          simp [FileTree.follow, hdirectory, hopen, hup, Nat.not_lt.mpr hshort, he]

theorem climb_sublist (place rest : List String) : (climb place rest).Sublist (place ++ rest) := by
  induction rest generalizing place with
  | nil => rw [List.append_nil, climb, List.foldl_nil]
  | cons name rest ih =>
      by_cases hname : name = ".."
      · subst hname
        have hrest : (place.dropLast ++ rest).Sublist (place ++ ".." :: rest) :=
          (List.dropLast_sublist place).append (List.sublist_cons_self ..)
        exact (ih place.dropLast).trans hrest
      · rw [climb_cons_of_ne hname]
        simpa using ih (place ++ [name])

/-- A path without `..` has no more bytes than the one that it comes from. -/
theorem isTooLong_climb {p : Path} (habsolute : p.isAbsolute = true)
    (hlong : p.isTooLong = false) : (Path.ofPlace (climb [] p.parts)).isTooLong = false := by
  have hparts := utf8ByteSize_intercalate_le "/" (climb_sublist [] p.parts)
  obtain ⟨root, parts⟩ := p
  cases root with
  | relative => cases habsolute
  | slash | doubleSlash =>
      simp only [Path.isTooLong, Path.toString, Path.ofPlace, PathRoot.text, List.nil_append,
        decide_eq_false_iff_not, Nat.not_lt, reduceCtorEq, decide_false, Bool.false_and,
        Bool.false_eq_true, if_false, String.utf8ByteSize_append] at *
      have hroot : "/".utf8ByteSize ≤ "//".utf8ByteSize := by decide
      omega

/-- What a path from the root leads to, the path that it resolves to leads to as well. -/
theorem Plain.locate_resolved (ht : t.Plain) {p : Path} {place : List String} {e : Entry π}
    (habsolute : p.isAbsolute = true) (hp : t.locate p = .ok (place, e)) :
    t.locate (.ofPlace place) = .ok (place, e) := by
  obtain ⟨-, hlong, hentry, fuel, hfollow⟩ := of_locate hp
  have hplace : place = climb [] p.parts := by
    have hwalk := walk_eq_climb (ht.walk_of_locate hp).1
    rwa [FileTree.absolute, Path.join, if_pos habsolute] at hwalk
  have hnul : hasNul (.ofPlace place) = false := by
    refine List.any_eq_false.mpr fun name hname => ?_
    have hplain := ht.names place e hentry name hname
    simp only [isPlainName, Bool.and_eq_true, Bool.not_eq_true'] at hplain
    rw [hplain.2]
    exact Bool.false_ne_true
  obtain ⟨fuel, hfuel, hlocate⟩ :=
    locate_of_not_hasNul (t := t) hnul (hplace ▸ isTooLong_climb habsolute hlong)
  obtain ⟨more, rfl⟩ : ∃ more, fuel = place.length + (more + 1) :=
    ⟨fuel - place.length - 1, by
      have hparts : (t.absolute (.ofPlace place)).parts = place := rfl
      rw [hparts] at hfuel
      omega⟩
  have hthere := (ht.followed_of_follow .root hfollow).follow ht maxLinks (more + 1) []
  rw [List.append_nil] at hthere
  have hparts : (t.absolute (.ofPlace place)).parts = place := rfl
  rw [hlocate, hparts, hthere]
  simp [FileTree.follow, bind, Except.bind, hentry]

end FileTree

/-! ## Entries -/

/-- The path of an entry of a list, which is taken from a directory if it is relative. -/
def entryPath (directory : Path) (entry : String) : Path := directory.join (Path.ofString entry)

/-- Whether the system tells what an entry of a list leads to, as far as it is asked. -/
def IsAnswered (tree : FileTree Program) (directory : Path) (entry : String) : Prop :=
  ∃ leads, leadsToSource tree (entryPath directory entry) = .ok leads

/-- The source file of an entry of a list, if it is one. -/
def sourceOf? (tree : FileTree Program) (directory : Path) (entry : String) : Option String :=
  match leadsToSource tree (entryPath directory entry) with
  | .ok true => (tree.resolve (entryPath directory entry)).toOption.map Path.toString
  | _ => none

/-- The entries of a list that count: those that are not blank. -/
def counted (entries : List String) : List String :=
  entries.filter fun entry => !Text.isBlankText entry

theorem mem_counted {entries : List String} {entry : String} :
    entry ∈ counted entries ↔ entry ∈ entries ∧ Text.isBlankText entry = false := by
  simp [counted]

/-- The source files of the entries of a list. -/
def sourcesIn (tree : FileTree Program) (directory : Path) (entries : List String) : List String :=
  (counted entries).filterMap (sourceOf? tree directory)

theorem leadsToSource_iff {π : Type} {tree : FileTree π} {p : Path} :
    leadsToSource tree p = .ok true ↔ isSourceFile p = true ∧ tree.isFile p = .ok true := by
  unfold leadsToSource
  split
  next hsource => simp [hsource]
  next hsource => simp [hsource, pure, Except.pure]

/-- The system refuses to look at an entry with one of its own failures. -/
theorem isSystemFailure_of_leadsToSource {π : Type} {tree : FileTree π} {p : Path} {f : Failure}
    (h : leadsToSource tree p = .error f) : f.isSystemFailure = true := by
  unfold leadsToSource at h
  split at h
  next =>
    obtain ⟨fault, habsence, -, rfl⟩ := FileTree.isFile_error h
    cases fault <;> simp [PathFault.isAbsence, FileTree.faultOf, FileTree.deniedFault,
      Failure.system, Failure.isSystemFailure] at habsence ⊢
  next => cases h

theorem isAnswered_of_sourceOf? {tree : FileTree Program} {directory : Path} {entry source : String}
    (h : sourceOf? tree directory entry = some source) :
    leadsToSource tree (entryPath directory entry) = .ok true ∧
      (tree.resolve (entryPath directory entry)).toOption.map Path.toString = some source := by
  unfold sourceOf? at h
  split at h
  next hleads => exact ⟨hleads, h⟩
  next => cases h

theorem keepSources_cons (tree : FileTree Program) (directory : Path) (entry : String)
    (rest : List String) :
    Attempt.outcome (keepSources tree directory (entry :: rest)) =
      leadsToSource tree (entryPath directory entry) >>= fun leads =>
        if leads then
          tree.resolve (entryPath directory entry) >>= fun q =>
            (Attempt.outcome (keepSources tree directory rest)).map (q.toString :: ·)
        else Attempt.outcome (keepSources tree directory rest) := by
  rw [keepSources, ← entryPath]
  simp only [Attempt.outcome_bind, Attempt.outcome_ofExcept]
  refine bind_congr fun leads => ?_
  cases leads with
  | false => simp
  | true =>
      simp only [if_true, Attempt.outcome_bind, Attempt.outcome_ofExcept]
      refine bind_congr fun q => ?_
      cases Attempt.outcome (keepSources tree directory rest) <;> rfl

theorem projectOfSources_outcome (tree : FileTree Program) (directory : Path)
    (entries : List String) :
    Attempt.outcome (projectOfSources tree entries directory) =
      if (counted entries).isEmpty then .error (.project "Empty source list was passed!")
      else Attempt.outcome (keepSources tree directory (counted entries)) >>= fun files =>
        if files.isEmpty then
          .error (.project "None of the given sources is an existing Python file")
        else .ok { name := "Project", root := directory.toString, sources := files } := by
  unfold projectOfSources counted
  generalize (entries.filter fun entry => !Text.isBlankText entry) = kept
  cases kept with
  | nil => rfl
  | cons entry rest =>
      simp only [List.isEmpty_cons, Bool.false_eq_true, if_false, Attempt.outcome_bind]
      refine bind_congr fun files => ?_
      cases files <;> rfl

section

variable {tree : FileTree Program} (ht : tree.Plain) {directory : Path}

include ht

theorem resolve_of_leadsToSource {entry : String}
    (h : leadsToSource tree (entryPath directory entry) = .ok true) :
    ∃ place, tree.resolve (entryPath directory entry) = .ok (.ofPlace place) := by
  obtain ⟨place, bytes, program, hplace⟩ := FileTree.isFile_iff.mp (leadsToSource_iff.mp h).2
  exact ⟨place, ht.resolve_of_locate hplace⟩

/-- Entries are kept if the system tells of each of them what it leads to. -/
theorem keepSources_ok_iff {entries files : List String} :
    Attempt.outcome (keepSources tree directory entries) = .ok files ↔
      (∀ entry ∈ entries, IsAnswered tree directory entry) ∧
        files = entries.filterMap (sourceOf? tree directory) := by
  induction entries generalizing files with
  | nil =>
      refine ⟨fun h => ?_, fun ⟨_, h⟩ => h ▸ rfl⟩
      cases h
      exact ⟨List.forall_mem_nil _, rfl⟩
  | cons entry rest ih =>
      rw [keepSources_cons, List.forall_mem_cons, List.filterMap_cons]
      cases hleads : leadsToSource tree (entryPath directory entry) with
      | error f =>
          rw [Attempt.error_bind]
          refine iff_of_false (by simp) ?_
          rintro ⟨⟨⟨leads, hother⟩, -⟩, -⟩
          rw [hleads] at hother
          cases hother
      | ok leads =>
          have hanswered : IsAnswered tree directory entry := ⟨leads, hleads⟩
          rw [Attempt.ok_bind, and_assoc, and_iff_right hanswered]
          cases leads with
          | false =>
              have hnone : sourceOf? tree directory entry = none := by
                unfold sourceOf?
                rw [hleads]
              rw [hnone, if_neg Bool.false_ne_true]
              exact ih
          | true =>
              obtain ⟨place, hplace⟩ := resolve_of_leadsToSource ht hleads
              have hsome : sourceOf? tree directory entry =
                  some (Path.ofPlace place).toString := by
                unfold sourceOf?
                rw [hleads, hplace]
                rfl
              rw [hsome, if_pos rfl, hplace, Attempt.ok_bind]
              constructor
              · intro h
                obtain ⟨more, hmore, rfl⟩ := Attempt.of_map_eq_ok h
                obtain ⟨hrest, rfl⟩ := ih.mp hmore
                exact ⟨hrest, rfl⟩
              · rintro ⟨hrest, rfl⟩
                rw [ih.mpr ⟨hrest, rfl⟩]
                rfl

/-- A list fails with the first of its entries that the system refuses to look at. -/
theorem keepSources_refused {front back : List String} {entry : String} {f : Failure}
    (hfront : ∀ e ∈ front, IsAnswered tree directory e)
    (h : leadsToSource tree (entryPath directory entry) = .error f) :
    Attempt.outcome (keepSources tree directory (front ++ entry :: back)) = .error f := by
  induction front with
  | nil => rw [List.nil_append, keepSources_cons, h, Attempt.error_bind]
  | cons e front ih =>
      rw [List.forall_mem_cons] at hfront
      obtain ⟨leads, hleads⟩ := hfront.1
      rw [List.cons_append, keepSources_cons, hleads, ih hfront.2, Attempt.ok_bind]
      cases leads with
      | false => rfl
      | true =>
          obtain ⟨place, hplace⟩ := resolve_of_leadsToSource ht hleads
          rw [hplace]
          rfl

/-- A list is a project if none of its entries is refused and it has source files. -/
theorem projectOfSources_ok_iff {entries : List String} {options : ProjectOptions} :
    Attempt.outcome (projectOfSources tree entries directory) = .ok options ↔
      (∀ entry ∈ counted entries, IsAnswered tree directory entry) ∧
        sourcesIn tree directory entries ≠ [] ∧ options =
          { name := "Project", root := directory.toString
            sources := sourcesIn tree directory entries } := by
  have hkept {files} := @keepSources_ok_iff tree ht directory (counted entries) files
  rw [projectOfSources_outcome, sourcesIn]
  generalize counted entries = kept at *
  cases kept with
  | nil => exact iff_of_false (by simp) fun h => h.2.1 rfl
  | cons entry rest =>
      rw [List.isEmpty_cons, if_neg Bool.false_ne_true]
      cases hfiles : Attempt.outcome (keepSources tree directory (entry :: rest)) with
      | error f =>
          rw [Attempt.error_bind]
          refine iff_of_false (by simp) fun h => ?_
          rw [hkept.mpr ⟨h.1, rfl⟩] at hfiles
          cases hfiles
      | ok files =>
          obtain ⟨hanswered, hfound⟩ := hkept.mp hfiles
          rw [Attempt.ok_bind, and_iff_right hanswered, ← hfound]
          cases files with
          | nil => exact iff_of_false (by simp) fun h => h.1 rfl
          | cons file files =>
              constructor
              · exact fun h => ⟨List.cons_ne_nil file files, (Except.ok.inj h).symm⟩
              · rintro ⟨-, rfl⟩
                rfl

/-- The first entry that the system refuses to look at is what a list fails with. -/
theorem projectOfSources_refused {entries front back : List String} {entry : String} {f : Failure}
    (hentries : counted entries = front ++ entry :: back)
    (hfront : ∀ e ∈ front, IsAnswered tree directory e)
    (h : leadsToSource tree (entryPath directory entry) = .error f) :
    Attempt.outcome (projectOfSources tree entries directory) = .error f := by
  have hsome : (front ++ entry :: back).isEmpty = false := by simp
  rw [projectOfSources_outcome, hentries, hsome, if_neg Bool.false_ne_true,
    keepSources_refused ht hfront h, Attempt.error_bind]

/-- The project at the path of a source file has this file. -/
theorem loadProject_of_sourceOf? (hdirectory : directory.isAbsolute = true) {entry source : String}
    (h : sourceOf? tree directory entry = some source) :
    ∃ options, loadProject tree entry directory = .ok options ∧ options.sources = [source] := by
  obtain ⟨hleads, hsource⟩ := isAnswered_of_sourceOf? h
  obtain ⟨hname, hfile⟩ := leadsToSource_iff.mp hleads
  obtain ⟨place, bytes, program, hplace⟩ := FileTree.isFile_iff.mp hfile
  have hresolve : tree.resolve (entryPath directory entry) = .ok (.ofPlace place) :=
    ht.resolve_of_locate hplace
  rw [hresolve] at hsource
  cases hsource
  have habsolute : (entryPath directory entry).isAbsolute = true := by
    unfold entryPath Path.join
    split
    next hentry => exact hentry
    next => exact hdirectory
  have hagain := ht.locate_resolved habsolute hplace
  obtain ⟨hnonempty, hup, -⟩ := name_ne_of_isSourceFile hname
  have hsame := ht.name_ofPlace hplace hnonempty hup
  -- so the resolved path passes for a source file too, and not for a project file
  have hresolved : isSourceFile (Path.ofPlace place) = true := by
    rw [isSourceFile_congr hsame, hname]
  have hproject := (name_ne_of_isSourceFile hresolved).2.2
  refine ⟨{ name := (Path.ofPlace place).toString, root := (Path.ofPlace place).parent.toString
            sources := [(Path.ofPlace place).toString] }, ?_, rfl⟩
  have hexists : tree.exists? (Path.ofPlace place) = .ok true := by
    rw [FileTree.exists?, FileTree.look, hagain]
    rfl
  have hthere : tree.isFile (Path.ofPlace place) = .ok true :=
    FileTree.isFile_iff.mpr ⟨place, bytes, program, hagain⟩
  rw [loadProject, ← entryPath, hresolve, Attempt.ok_bind]
  simp only [hexists, hthere, hproject, hresolved, Attempt.ok_bind, Bool.not_true,
    Bool.false_eq_true, if_false, if_true]
  rfl

end

/-! ## Lists and their entries -/

theorem sourcesIn_eq_flatMap (tree : FileTree Program) (directory : Path) (entries : List String) :
    sourcesIn tree directory entries =
      entries.flatMap fun entry => sourcesIn tree directory [entry] := by
  induction entries with
  | nil => rfl
  | cons entry rest ih =>
      rw [List.flatMap_cons, ← ih]
      unfold sourcesIn counted
      rw [← List.filterMap_append, ← List.filter_append, List.singleton_append]

/-- A list of one entry has its source file, unless the entry is blank. -/
theorem sourcesIn_singleton {tree : FileTree Program} {directory : Path} {entry : String}
    (h : sourcesIn tree directory [entry] ≠ []) :
    Text.isBlankText entry = false ∧ ∃ source, sourceOf? tree directory entry = some source ∧
      sourcesIn tree directory [entry] = [source] := by
  cases hblank : Text.isBlankText entry with
  | true => exact absurd (by simp [sourcesIn, counted, hblank]) h
  | false =>
      cases hsource : sourceOf? tree directory entry with
      | none => exact absurd (by simp [sourcesIn, counted, hblank, hsource]) h
      | some source => exact ⟨rfl, source, rfl, by simp [sourcesIn, counted, hblank, hsource]⟩

/-! ## Analyses -/

/-- The messages of a project depend on its source files only. -/
theorem Equipment.messagesOf_congr (e : Equipment) (tree : FileTree Program) (config : Config)
    {options others : ProjectOptions} (h : options.sources = others.sources) :
    e.messagesOf tree config options = e.messagesOf tree config others := by
  simp only [messagesOf, messagesAlone, runProject_outcome Checker.faithful_empty,
    analyzedContexts, analyzedFiles, h]

theorem collect_singleton {α β : Type} (f : α → Except Failure (List β)) (x : α) :
    collect f [x] = f x := by
  rw [collect_cons]
  cases f x with
  | error e => rfl
  | ok ys => exact congrArg Except.ok (List.append_nil ys)

theorem analyze_sources_outcome (tree : FileTree Program) (entries : List String)
    (config : Config) (directory : Path) :
    Attempt.outcome (analyze tree [] (some entries) config directory) =
      equipment tree config directory >>= fun e =>
        Attempt.outcome (projectOfSources tree entries directory) >>= fun options =>
          (e.messagesOf tree config options).map e.analysisOf := by
  simp only [analyze, equipment, Subject.of, Subject.resolve, Attempt.outcome_bind,
    Attempt.outcome_ofExcept, Attempt.ok_bind, bind_assoc, pure_bind]
  refine bind_congr fun mappings => bind_congr fun _ => bind_congr fun loaded => ?_
  refine bind_congr fun options => ?_
  rw [Equipment.messagesOf, Attempt.outcome_pure, Attempt.ok_bind]
  cases config.texts .ignoreFiles with
  | error f => rfl
  | ok ignored =>
      rw [Attempt.ok_bind, Attempt.ok_bind, runProjects_outcome Checker.faithful_empty,
        collect_singleton]
      cases messagesAlone loaded.1 tree ignored mappings options <;> rfl

/-! ## Lists and projects -/

/-- The source files of an entry, if it is a list by itself. -/
def sourcesAlone (tree : FileTree Program) (directory : Path) (entry : String) : List String :=
  match Attempt.outcome (projectOfSources tree [entry] directory) with
  | .ok options => options.sources
  | .error _ => []

section

variable {tree : FileTree Program} (ht : tree.Plain) {directory : Path}

include ht

theorem sourcesAlone_eq (entry : String) :
    sourcesAlone tree directory entry = sourcesIn tree directory [entry] := by
  unfold sourcesAlone
  split
  next options hoptions => rw [((projectOfSources_ok_iff ht).mp hoptions).2.2]
  next f hf =>
    -- a list that fails has no source files, or else it would be a project
    by_contra hne
    obtain ⟨-, source, hsource, -⟩ := sourcesIn_singleton (Ne.symm hne)
    have hanswered : ∀ e ∈ counted [entry], IsAnswered tree directory e := by
      intro e he
      rw [List.mem_singleton.mp (mem_counted.mp he).1]
      exact ⟨true, (isAnswered_of_sourceOf? hsource).1⟩
    cases hf.symm.trans ((projectOfSources_ok_iff ht).mpr ⟨hanswered, Ne.symm hne, rfl⟩)

theorem exists_project_of_list (hdirectory : directory.isAbsolute = true) {entry : String}
    {options : ProjectOptions}
    (h : Attempt.outcome (projectOfSources tree [entry] directory) = .ok options) :
    ∃ project, loadProject tree entry directory = .ok project ∧
      project.sources = options.sources := by
  obtain ⟨-, hne, rfl⟩ := (projectOfSources_ok_iff ht).mp h
  obtain ⟨-, source, hsource, hsources⟩ := sourcesIn_singleton hne
  rw [hsources]
  exact loadProject_of_sourceOf? ht hdirectory hsource

end

/-- How lists of source files go together with projects and with each other. -/
structure ListsAgree (tree : FileTree Program) (directory : Path) : Prop where
  /-- A list of one entry is a project with the same source files. -/
  loads : ∀ entry options,
    Attempt.outcome (projectOfSources tree [entry] directory) = .ok options →
    ∃ project, loadProject tree entry directory = .ok project ∧ project.sources = options.sources
  /-- It fails alike, or has the same messages, plugins, analyzers and exit code. -/
  analyzed : ∀ entry options,
    Attempt.outcome (projectOfSources tree [entry] directory) = .ok options → ∀ config,
    Attempt.outcome (analyze tree [] (some [entry]) config directory) =
      Attempt.outcome (analyze tree [entry] none config directory)
  /-- A list fails if the system refuses to look at one of its entries, though others are source
  files. -/
  refused : ∀ entries front entry back f, counted entries = front ++ entry :: back →
    (∀ e ∈ front, IsAnswered tree directory e) →
    leadsToSource tree (entryPath directory entry) = .error f →
    Attempt.outcome (projectOfSources tree entries directory) = .error f ∧
      f.isSystemFailure = true
  succeeds : ∀ entries,
    (∃ options, Attempt.outcome (projectOfSources tree entries directory) = .ok options) ↔
      (∀ entry ∈ counted entries, IsAnswered tree directory entry) ∧
        ∃ entry ∈ counted entries,
          ∃ options, Attempt.outcome (projectOfSources tree [entry] directory) = .ok options
  joined : ∀ entries options,
    Attempt.outcome (projectOfSources tree entries directory) = .ok options →
    options.sources = entries.flatMap (sourcesAlone tree directory)

theorem lists_agree {tree : FileTree Program} (ht : tree.Plain) {directory : Path}
    (hdirectory : directory.isAbsolute = true) : ListsAgree tree directory := by
  constructor
  case loads => exact fun entry options h => exists_project_of_list ht hdirectory h
  case analyzed =>
    intro entry options h config
    obtain ⟨project, hproject, hsources⟩ := exists_project_of_list ht hdirectory h
    rw [analyze_sources_outcome, analyze_project_outcome]
    -- up to here it does not matter what is analyzed
    refine bind_congr fun e => ?_
    rw [h, Equipment.messagesAt, hproject, Attempt.ok_bind, Attempt.ok_bind,
      e.messagesOf_congr tree config hsources]
  case refused =>
    intro entries front entry back f hentries hfront hf
    exact ⟨projectOfSources_refused ht hentries hfront hf, isSystemFailure_of_leadsToSource hf⟩
  case succeeds =>
    intro entries
    simp only [projectOfSources_ok_iff ht, exists_and_left, exists_eq, and_true]
    refine and_congr_right fun hanswered => ?_
    rw [sourcesIn_eq_flatMap, ne_eq, List.flatMap_eq_nil_iff]
    simp only [not_forall, exists_prop]
    constructor
    · rintro ⟨entry, hentry, hne⟩
      have hcounted := mem_counted.mpr ⟨hentry, (sourcesIn_singleton hne).1⟩
      refine ⟨entry, hcounted, fun e he => ?_, hne⟩
      rw [List.mem_singleton.mp (mem_counted.mp he).1]
      exact hanswered entry hcounted
    · rintro ⟨entry, hentry, -, hne⟩
      exact ⟨entry, (mem_counted.mp hentry).1, hne⟩
  case joined =>
    intro entries options h
    rw [((projectOfSources_ok_iff ht).mp h).2.2, sourcesIn_eq_flatMap]
    exact List.flatMap_congr fun entry _ => (sourcesAlone_eq ht entry).symm

/-- A path can lead into a directory and out of it again. A list with an entry in a closed directory
fails, which no list does that goes without this entry. -/
theorem lists_agree_climbing :
    let tree : FileTree Program :=
      { entries := [(["x"], .directory), (["a.py"], .file [] none), (["y"], .directory)]
        closedPlaces := [["y"]] }
    let directory : Path := { root := .slash, parts := ["x"] }
    (∃ project, loadProject tree "../x/..//./a.py" directory = .ok project ∧
        project.sources = ["/a.py"]) ∧
      Attempt.outcome (analyze tree [] (some ["../x/..//./a.py"]) {} directory) =
        Attempt.outcome (analyze tree ["../x/..//./a.py"] none {} directory) ∧
      (∃ options, Attempt.outcome
        (projectOfSources tree ["b.py", "../x/..//./a.py"] directory) = .ok options) ∧
      Attempt.outcome (projectOfSources tree ["b.py", "/y/b.py", "../x/..//./a.py"] directory) =
        .error (FileTree.deniedFault "/y/b.py") := by
  intro tree directory
  have ht : tree.Plain := .of_entries (by simp [tree]) (by decide)
  have hoptions : Attempt.outcome (projectOfSources tree ["../x/..//./a.py"] directory) =
      .ok { name := "Project", root := "/x", sources := ["/a.py"] } := by decide +kernel
  have hagree : ListsAgree tree directory := lists_agree ht rfl
  have hplain : IsAnswered tree directory "b.py" := ⟨false, by decide +kernel⟩
  have hclimbing : IsAnswered tree directory "../x/..//./a.py" := ⟨true, by decide +kernel⟩
  refine ⟨hagree.loads _ _ hoptions, hagree.analyzed _ _ hoptions {}, ?_, ?_⟩
  · have hcounted : counted ["b.py", "../x/..//./a.py"] = ["b.py", "../x/..//./a.py"] := by
      decide +kernel
    refine (hagree.succeeds _).mpr ⟨?_, _, by simp [hcounted], _, hoptions⟩
    rw [hcounted, List.forall_mem_cons]
    exact ⟨hplain, List.forall_mem_singleton.mpr hclimbing⟩
  · refine (hagree.refused _ ["b.py"] "/y/b.py" ["../x/..//./a.py"] _ (by decide +kernel) ?_
      (by decide +kernel)).1
    exact List.forall_mem_singleton.mpr hplain

end Assay
