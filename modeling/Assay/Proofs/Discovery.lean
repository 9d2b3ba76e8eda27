import Assay.Project.Discovery
import Assay.Proofs.LinkedTree
import Assay.Proofs.Sorting
import Mathlib.Data.List.Lex

/-! # Files that are found

Files are found without repetition and in one order, which goes by the names in their paths. So a
list of found files is known by its members. In a plain tree these are all plugins under the
searched path, and with more files in the tree there are more of them.
-/

namespace Assay

namespace Path

/-- What a path is compared by. -/
def key (p : Path) : List String := (if p.isAbsolute then [p.root.text] else []) ++ p.parts

theorem partsLt_eq (as bs : List String) : partsLt as bs = decide (as < bs) := by
  induction as generalizing bs with
  | nil => cases bs <;> simp [partsLt]
  | cons a as ih =>
      cases bs with
      | nil => simp [partsLt]
      | cons b bs =>
          simp only [partsLt, ih, List.cons_lt_cons_iff]
          by_cases hlt : a < b
          · simp [hlt]
          · by_cases heq : a = b <;> simp [hlt, heq]

theorem lt_eq (p q : Path) : p.lt q = decide (p.key < q.key) := partsLt_eq _ _

theorem key_inj {p q : Path} (hp : p.root = .slash) (hq : q.root = .slash)
    (h : p.key = q.key) : p = q := by
  cases p
  cases q
  cases hp
  cases hq
  simpa [key, isAbsolute] using h

/-- Paths from the root, each of which is behind the one before it. -/
structure InOrder (ps : List Path) : Prop where
  fromRoot : ∀ p ∈ ps, p.root = .slash
  ascending : ps.Pairwise fun p q => p.key < q.key

namespace InOrder

variable {ps qs : List Path}

theorem nodup (h : InOrder ps) : ps.Nodup :=
  h.ascending.imp fun hlt heq => hlt.ne (congrArg key heq)

theorem filter (h : InOrder ps) (keep : Path → Bool) : InOrder (ps.filter keep) :=
  ⟨fun p hp => h.fromRoot p (List.mem_of_mem_filter hp), h.ascending.filter keep⟩

/-- Paths in order are known by what is among them. -/
theorem eq_of_mem_iff (hps : InOrder ps) (hqs : InOrder qs) (h : ∀ p, p ∈ ps ↔ p ∈ qs) :
    ps = qs :=
  List.Perm.eq_of_pairwise (fun _ _ _ _ hpq hqp => absurd hqp hpq.asymm) hps.ascending
    hqs.ascending ((List.perm_ext_iff_of_nodup hps.nodup hqs.nodup).mpr h)

end InOrder

end Path

theorem nodup_eraseDups {α : Type} [BEq α] [LawfulBEq α] (xs : List α) :
    xs.eraseDups.Nodup := by
  match xs with
  | [] => simp
  | x :: xs =>
      rw [List.eraseDups_cons, List.nodup_cons]
      exact ⟨by simp [List.mem_eraseDups], nodup_eraseDups _⟩
termination_by xs.length
decreasing_by exact Nat.lt_succ_of_le (List.length_filter_le _ _)

namespace FileTree

variable {π : Type} {t : FileTree π}

theorem sortBy_lt_eq (ps : List Path) :
    Value.sortBy Path.lt ps = Value.sortByKey Path.key ps := by
  congr 1
  funext p q
  rw [Path.lt_eq]
  exact decide_eq_decide.mpr Iff.rfl

theorem fileAt_eq_some_iff {skips wants : Path → Bool} {found : Except Failure Path} {q : Path} :
    t.fileAt skips wants found = .ok (some q) ↔ ∃ p, found = .ok p ∧ skips p = false ∧
      t.isFile p = .ok true ∧ wants p = true ∧ t.resolve p = .ok q := by
  cases found with
  | error f => simp [fileAt]
  | ok p =>
      cases hskips : skips p with
      | true => simp [fileAt, hskips, pure, Except.pure]
      | false =>
          cases hfile : t.isFile p with
          | error f => simp [fileAt, hskips, hfile]
          | ok here =>
              cases here <;> cases hwants : wants p <;> cases hresolve : t.resolve p <;>
                simp [fileAt, hskips, hfile, hwants, hresolve, pure, Except.pure]

theorem mem_filesIn_of_ok {skips wants : Path → Bool} {found : List (Except Failure Path)}
    {files : List Path} (h : t.filesIn skips wants found = .ok files) (q : Path) :
    q ∈ files ↔ ∃ p, .ok p ∈ found ∧ skips p = false ∧ t.isFile p = .ok true ∧ wants p = true ∧
      t.resolve p = .ok q := by
  obtain ⟨kept, hkept, h⟩ := Attempt.of_bind_eq_ok h
  cases h
  rw [sortBy_lt_eq, (Value.sortByKey_perm Path.key _).mem_iff, List.mem_eraseDups,
    List.mem_filterMap]
  simp only [id, exists_eq_right, Attempt.mem_iff_of_mapM_eq_ok hkept, fileAt_eq_some_iff]
  constructor
  · rintro ⟨_, hmem, p, rfl, hp⟩
    exact ⟨p, hmem, hp⟩
  · rintro ⟨p, hmem, hp⟩
    exact ⟨_, hmem, p, rfl, hp⟩

theorem filesIn_inOrder {skips wants : Path → Bool} {found : List (Except Failure Path)}
    {files : List Path} (h : t.filesIn skips wants found = .ok files) : Path.InOrder files := by
  have hmem := mem_filesIn_of_ok h
  obtain ⟨kept, _, h⟩ := Attempt.of_bind_eq_ok h
  cases h
  simp only [sortBy_lt_eq, (Value.sortByKey_perm Path.key _).mem_iff] at hmem ⊢
  have hroot : ∀ p ∈ (kept.filterMap id).eraseDups, p.root = .slash := by
    intro p hp
    obtain ⟨_, _, _, _, _, hresolve⟩ := (hmem p).mp hp
    exact (of_resolve hresolve).1
  have hkeys : ((kept.filterMap id).eraseDups.map Path.key).Nodup :=
    (nodup_eraseDups _).map_on fun p hp q hq => Path.key_inj (hroot p hp) (hroot q hq)
  exact ⟨fun p hp => hroot p ((Value.sortByKey_perm Path.key _).mem_iff.mp hp),
    Value.sortByKey_strict Path.key hkeys⟩

theorem pluginFiles_inOrder {root : Path} {files : List Path}
    (h : t.pluginFiles root = .ok files) : Path.InOrder files := by
  obtain ⟨here, _, h⟩ := Attempt.of_bind_eq_ok h
  split at h
  next =>
    split at h
    next =>
      obtain ⟨p, hp, h⟩ := Attempt.of_bind_eq_ok h
      cases h
      exact ⟨List.forall_mem_singleton.mpr (of_resolve hp).1, List.pairwise_singleton _ _⟩
    next =>
      cases h
      exact ⟨List.forall_mem_nil _, List.Pairwise.nil⟩
  next =>
    obtain ⟨directory, _, h⟩ := Attempt.of_bind_eq_ok h
    split at h
    next =>
      cases h
      exact ⟨List.forall_mem_nil _, List.Pairwise.nil⟩
    next => exact filesIn_inOrder h

/-! ## What the system tells -/

/-- The system tells what a path leads to, or that it leads to nothing. -/
def Answers (t : FileTree π) (p : Path) : Prop :=
  ∀ f, t.locate p = .error f → f.isAbsence = true

theorem isFile_iff {p : Path} : t.isFile p = .ok true ↔
    ∃ place bytes program, t.locate p = .ok (place, .file bytes program) := by
  unfold isFile look
  cases hp : t.locate p with
  | error f => cases hf : f.isAbsence <;> simp [hf, pure, Except.pure]
  | ok found =>
      obtain ⟨place, e⟩ := found
      cases e <;> simp [pure, Except.pure]

theorem isDirectory_iff {p : Path} :
    t.isDirectory p = .ok true ↔ ∃ place, t.locate p = .ok (place, .directory) := by
  unfold isDirectory look
  cases hp : t.locate p with
  | error f => cases hf : f.isAbsence <;> simp [hf, pure, Except.pure]
  | ok found =>
      obtain ⟨place, e⟩ := found
      cases e <;> simp [pure, Except.pure]

namespace Answers

variable {p : Path} (h : t.Answers p)

include h

theorem look : ∃ e, t.look p = .ok e := by
  unfold FileTree.look
  cases hp : t.locate p with
  | error f => exact ⟨none, by simp [h f hp]⟩
  | ok found => exact ⟨_, rfl⟩

theorem isFile : ∃ here, t.isFile p = .ok here := by
  obtain ⟨e, he⟩ := h.look
  unfold FileTree.isFile
  rw [he, Attempt.ok_bind]
  split <;> exact ⟨_, rfl⟩

theorem isDirectory : ∃ here, t.isDirectory p = .ok here := by
  obtain ⟨e, he⟩ := h.look
  unfold FileTree.isDirectory
  rw [he, Attempt.ok_bind]
  split <;> exact ⟨_, rfl⟩

theorem exists? : ∃ here, t.exists? p = .ok here := by
  obtain ⟨e, he⟩ := h.look
  exact ⟨e.isSome, by rw [FileTree.exists?, he]; rfl⟩

end Answers

theorem answers_of_locate {p : Path} {found : List String × Entry π}
    (h : t.locate p = .ok found) : t.Answers p := by
  intro f hf
  cases h.symm.trans hf

/-! ## Below a directory -/

/-- A directory that is listed has something under a name. -/
def Lists (t : FileTree π) (p : Path) (name : String) : Prop :=
  ∃ place, t.locate p = .ok (place, .directory) ∧ t.isClosed place = false ∧
    (t.entry? (place ++ [name])).isSome

theorem mem_list_iff {p : Path} {names : List String} (h : t.list p = .ok names) {name : String} :
    name ∈ names ↔ t.Lists p name := by
  unfold list at h
  unfold Lists
  split at h
  next place hplace =>
    split at h
    next => cases h
    next hclosed =>
      cases h
      rw [mem_names_iff, hplace]
      constructor
      · exact fun hname => ⟨place, rfl, by simpa using hclosed, hname⟩
      · rintro ⟨q, hq, _, hname⟩
        cases hq
        exact hname
  next => cases h
  next => cases h

theorem Lists.list {p : Path} {name : String} (h : t.Lists p name) :
    ∃ names, t.list p = .ok names ∧ name ∈ names := by
  obtain ⟨place, hplace, hclosed, hname⟩ := h
  have hlist : t.list p = .ok (t.names place) := by simp [FileTree.list, hplace, hclosed]
  exact ⟨_, hlist, (mem_list_iff hlist).mpr ⟨place, hplace, hclosed, hname⟩⟩

theorem ownEntry?_child {p : Path} {name : String} {e : Entry π} :
    t.ownEntry? (p.child name) = some e ↔ ∃ place, t.locate p = .ok (place, .directory) ∧
      t.entry? (place ++ [name]) = some e := by
  have hparent : (p.child name).parent = p := by simp [Path.child, Path.parent]
  have hname : (p.child name).name = name := by simp [Path.child, Path.name]
  unfold ownEntry?
  rw [hparent, hname]
  split
  next place hplace =>
    rw [hplace]
    constructor
    · exact fun h => ⟨place, rfl, h⟩
    · rintro ⟨q, hq, h⟩
      cases hq
      exact h
  next hnone =>
    constructor
    · intro h
      cases h
    · rintro ⟨place, hplace, _⟩
      exact absurd hplace (hnone place)

theorem isOwnDirectory_child {p : Path} {name : String} :
    t.isOwnDirectory (p.child name) = true ↔ ∃ place, t.locate p = .ok (place, .directory) ∧
      t.entry? (place ++ [name]) = some .directory := by
  rw [← ownEntry?_child]
  unfold isOwnDirectory
  split
  next h => exact iff_of_true rfl h
  next h => exact iff_of_false Bool.false_ne_true h

/-- A path that is reached from another through directories, none of which a link leads to. -/
inductive Reaches (t : FileTree π) : Path → Path → Prop where
  | here (p : Path) : Reaches t p p
  | under {p q : Path} {name : String} (hname : t.Lists p name)
      (hown : t.isOwnDirectory (p.child name) = true) (hrest : Reaches t (p.child name) q) :
      Reaches t p q

theorem mem_stopAt {α : Type} {f : Failure} {found : Except Failure α}
    (h : found ∈ stopAt (α := α) f) : found = .error f ∧ f.kind ≠ "PermissionError" := by
  unfold stopAt at h
  split at h
  next => cases h
  next hkind => exact ⟨List.mem_singleton.mp h, hkind⟩

/-- A search for directories comes to those that are reached, and ends only where one of them cannot
be listed for another reason than that it is closed. -/
theorem of_mem_directories {depth : Nat} {p : Path} {found : Except Failure Path}
    (h : found ∈ t.directories depth p) : (∃ q, found = .ok q ∧ t.Reaches p q) ∨
      ∃ q f, found = .error f ∧ t.Reaches p q ∧ t.list q = .error f ∧
        f.kind ≠ "PermissionError" := by
  induction depth generalizing p with
  | zero => exact .inl ⟨p, List.mem_singleton.mp h, .here p⟩
  | succ depth ih =>
      rcases List.mem_cons.mp h with rfl | h
      · exact .inl ⟨p, rfl, .here p⟩
      · split at h
        next f hf =>
          obtain ⟨rfl, hkind⟩ := mem_stopAt h
          exact .inr ⟨p, f, rfl, .here p, hf, hkind⟩
        next names hnames =>
          obtain ⟨child, hchild, h⟩ := List.mem_flatMap.mp h
          obtain ⟨name, hname, rfl⟩ := List.mem_map.mp hchild
          split at h
          next hown =>
            have hlists := (mem_list_iff hnames).mp hname
            rcases ih h with ⟨q, rfl, hq⟩ | ⟨q, f, rfl, hq, hf⟩
            · exact .inl ⟨q, rfl, .under hlists hown hq⟩
            · exact .inr ⟨q, f, rfl, .under hlists hown hq, hf⟩
          next => cases h

theorem length_le_depth {place : List String} {e : Entry π} (h : t.entry? place = some e) :
    place.length ≤ t.depth := by
  by_cases hplace : place = []
  · rw [hplace]
    exact Nat.zero_le _
  · obtain ⟨other, hother⟩ := (entry?_isSome_iff hplace).mp (Option.isSome_of_eq_some h)
    have hmem : place.length ∈ t.entries.map fun e => e.1.length :=
      List.mem_map.mpr ⟨(place, other), hother, rfl⟩
    exact le_foldl_max hmem 0

/-- The search is never cut short: each level down takes one name more, and no place has more names
than the tree is deep. -/
theorem Reaches.mem_directories (ht : t.Plain) {p q : Path} (h : t.Reaches p q) {depth : Nat}
    (hdepth : ∀ place e, t.locate p = .ok (place, e) → t.depth ≤ depth + place.length) :
    .ok q ∈ t.directories depth p := by
  induction h generalizing depth with
  | here p => cases depth <;> simp [directories]
  | @under p q name hname hown hrest ih =>
      obtain ⟨place, hplace, hentry⟩ := isOwnDirectory_child.mp hown
      have hlength := length_le_depth hentry
      have henough := hdepth place _ hplace
      rw [List.length_append, List.length_singleton] at hlength
      obtain ⟨less, rfl⟩ : ∃ less, depth = less + 1 := ⟨depth - 1, by omega⟩
      obtain ⟨names, hnames, hmem⟩ := hname.list
      have hup : name ≠ ".." := fun hup => ht.up_not_mem hentry (by simp [hup])
      simp only [directories, hnames]
      refine List.mem_cons_of_mem _ (List.mem_flatMap.mpr
        ⟨p.child name, List.mem_map_of_mem hmem, ?_⟩)
      rw [if_pos hown]
      refine ih fun other e hother => ?_
      rw [ht.of_locate_child hplace hup hother, List.length_append, List.length_singleton]
      omega

theorem mem_directories_iff (ht : t.Plain) {p q : Path} :
    .ok q ∈ t.directories (t.depth + 1) p ↔ t.Reaches p q := by
  constructor
  · intro h
    rcases of_mem_directories h with ⟨_, ⟨⟩, hq⟩ | ⟨_, _, ⟨⟩, _⟩
    exact hq
  · exact fun h => h.mem_directories ht fun _ _ _ => by omega

/-! ## Searches that go through -/

/-- A path below which the system lets everything be looked up that a search comes to. -/
structure Searchable (t : FileTree π) (root : Path) : Prop where
  answers : t.Answers root
  lists : t.isDirectory root = .ok true → ∀ p f, t.Reaches root p → t.list p = .error f →
    f.kind = "PermissionError"
  files : ∀ p name, t.Reaches root p → t.Lists p name → t.Answers (p.child name)

theorem parse_sourceFiles : PathStep.parse "**/*.py" = .ok [.anyDepth, .glob "*.py"] := by
  decide +kernel

theorem glob_sourceFiles_of_directory {root : Path} (h : t.isDirectory root = .ok true) :
    t.glob root "**/*.py" = t.select [.anyDepth, .glob "*.py"] root := by
  simp only [glob, parse_sourceFiles, h]

theorem mem_select_glob {p : Path} {found : Except Failure Path} :
    found ∈ t.select [.glob "*.py"] p ↔
      (∃ name, t.Lists p name ∧ Glob.accepts "*.py" name = true ∧ found = .ok (p.child name)) ∨
        ∃ f, t.list p = .error f ∧ found ∈ stopAt f := by
  simp only [select]
  cases hlist : t.list p with
  | error f =>
      have hnone : ∀ name, ¬ t.Lists p name := by
        intro name hname
        obtain ⟨names, hnames, _⟩ := hname.list
        cases hlist.symm.trans hnames
      simp [hnone]
  | ok names =>
      simp only [List.isEmpty_nil, if_true, List.flatMap_map, List.mem_flatMap,
        List.mem_ite_nil_right, List.mem_singleton, mem_list_iff hlist, reduceCtorEq, false_and,
        exists_false, or_false]

theorem mem_select_sourceFiles (ht : t.Plain) {root x : Path} :
    .ok x ∈ t.select [.anyDepth, .glob "*.py"] root ↔
      ∃ p name, t.Reaches root p ∧ t.Lists p name ∧ Glob.accepts "*.py" name = true ∧
        x = p.child name := by
  have hnone : ∀ f, ¬ (.ok x : Except Failure Path) ∈ stopAt f :=
    fun f hmem => nomatch (mem_stopAt hmem).1
  rw [select, List.mem_flatMap]
  constructor
  · rintro ⟨_ | p, hp, hx⟩
    · cases List.mem_singleton.mp hx
    · obtain ⟨name, hname, haccepts, ⟨⟩⟩ | ⟨f, _, hf⟩ := mem_select_glob.mp hx
      · exact ⟨p, name, (mem_directories_iff ht).mp hp, hname, haccepts, rfl⟩
      · exact absurd hf (hnone f)
  · rintro ⟨p, name, hp, hname, haccepts, rfl⟩
    exact ⟨.ok p, (mem_directories_iff ht).mpr hp, mem_select_glob.mpr
      (.inl ⟨name, hname, haccepts, rfl⟩)⟩

/-- A search that goes through comes to paths that can be looked up, and to no failure. -/
theorem Searchable.of_mem_select {root : Path} (h : t.Searchable root)
    (hroot : t.isDirectory root = .ok true) {found : Except Failure Path}
    (hfound : found ∈ t.select [.anyDepth, .glob "*.py"] root) :
    ∃ p, found = .ok p ∧ t.Answers p := by
  rw [select, List.mem_flatMap] at hfound
  obtain ⟨start, hstart, hfound⟩ := hfound
  rcases of_mem_directories hstart with ⟨p, rfl, hp⟩ | ⟨p, f, rfl, hp, hf, hkind⟩
  · obtain ⟨name, hname, _, rfl⟩ | ⟨f, hf, hmem⟩ := mem_select_glob.mp hfound
    · exact ⟨_, rfl, h.files p name hp hname⟩
    · exact absurd (h.lists hroot p f hp hf) (mem_stopAt hmem).2
  · exact absurd (h.lists hroot p f hp hf) hkind

/-- The files that a search comes to are all found if they can be looked up and resolved. -/
theorem mem_filesIn (skips wants : Path → Bool) {found : List (Except Failure Path)}
    (hfound : ∀ x ∈ found, ∃ p, x = .ok p ∧ t.Answers p)
    (hresolve : ∀ p, .ok p ∈ found → t.isFile p = .ok true → ∃ q, t.resolve p = .ok q) :
    ∃ files, t.filesIn skips wants found = .ok files ∧ ∀ q, q ∈ files ↔
      ∃ p, .ok p ∈ found ∧ skips p = false ∧ t.isFile p = .ok true ∧ wants p = true ∧
        t.resolve p = .ok q := by
  have hfiles : ∃ kept, found.mapM (t.fileAt skips wants) = .ok kept := by
    refine Attempt.mapM_ok_iff.mpr fun x hx => ?_
    obtain ⟨p, rfl, hp⟩ := hfound x hx
    obtain ⟨here, hhere⟩ := hp.isFile
    unfold fileAt
    rw [Attempt.ok_bind]
    split
    next => exact ⟨_, rfl⟩
    next =>
      rw [hhere, Attempt.ok_bind]
      cases here with
      | false => exact ⟨_, rfl⟩
      | true =>
          obtain ⟨q, hq⟩ := hresolve p hx hhere
          split
          next => exact ⟨_, rfl⟩
          next =>
            split
            next => exact ⟨some q, by rw [hq]; rfl⟩
            next => exact ⟨_, rfl⟩
  obtain ⟨kept, hkept⟩ := hfiles
  have hok : t.filesIn skips wants found =
      .ok (Value.sortBy Path.lt (kept.filterMap id).eraseDups) := by
    rw [filesIn, hkept]
    rfl
  exact ⟨_, hok, mem_filesIn_of_ok hok⟩

/-! ## Plugins -/

/-- A path where a plugin is found: the searched path itself, or a path below it. -/
inductive Candidate (t : FileTree π) (root : Path) : Path → Prop where
  | itself (hfile : t.isFile root = .ok true) (hname : isPluginFile root = true) :
      Candidate t root root
  | inside {p : Path} {name : String} (hroot : t.isDirectory root = .ok true)
      (hreaches : t.Reaches root p) (hname : t.Lists p name)
      (haccepts : Glob.accepts "*.py" name = true)
      (hkept : (directoriesBelow root (p.child name)).any
        (fun d => skippedDirectories.contains d || d.startsWith ".") = false)
      (hfile : t.isFile (p.child name) = .ok true) (hplugin : isPluginFile (p.child name) = true) :
      Candidate t root (p.child name)

theorem Candidate.isFile {root p : Path} (h : t.Candidate root p) : t.isFile p = .ok true := by
  cases h with
  | itself hfile _ => exact hfile
  | inside _ _ _ _ _ hfile _ => exact hfile

/-- What is a file is no directory, so that there is nothing inside it. -/
theorem candidate_iff_of_isFile {root p : Path} (hroot : t.isFile root = .ok true) :
    t.Candidate root p ↔ isPluginFile root = true ∧ p = root := by
  constructor
  · rintro (⟨_, hname⟩ | ⟨hdirectory, _⟩)
    · exact ⟨hname, rfl⟩
    · obtain ⟨_, _, _, hplace⟩ := isFile_iff.mp hroot
      obtain ⟨_, hother⟩ := isDirectory_iff.mp hdirectory
      cases hplace.symm.trans hother
  · rintro ⟨hname, rfl⟩
    exact .itself hroot hname

/-- All plugins are found, and each of them is named by where it is. -/
theorem mem_pluginFiles (ht : t.Plain) {root : Path} (hsearch : t.Searchable root) :
    ∃ files, t.pluginFiles root = .ok files ∧
      ∀ q, q ∈ files ↔ ∃ p, t.Candidate root p ∧ t.resolve p = .ok q := by
  have hresolve : ∀ p, t.isFile p = .ok true → ∃ q, t.resolve p = .ok q := by
    intro p hp
    obtain ⟨place, bytes, program, hlocate⟩ := isFile_iff.mp hp
    exact ⟨_, ht.resolve_of_locate hlocate⟩
  obtain ⟨file, hfile⟩ := hsearch.answers.isFile
  obtain ⟨directory, hdirectory⟩ := hsearch.answers.isDirectory
  simp only [pluginFiles, hfile, hdirectory, Attempt.ok_bind]
  cases file with
  | true =>
      simp only [candidate_iff_of_isFile hfile]
      obtain ⟨q, hq⟩ := hresolve root hfile
      cases hname : isPluginFile root with
      | true =>
          refine ⟨[q], by simp [hq, pure, Except.pure], fun x => ?_⟩
          simp [hq, eq_comm]
      | false => exact ⟨[], rfl, by simp⟩
  | false =>
      have hother : ¬ t.isFile root = .ok true := by simp [hfile]
      cases directory with
      | false =>
          refine ⟨[], rfl, fun q => ?_⟩
          simp only [List.not_mem_nil, false_iff]
          rintro ⟨p, ⟨hroot, _⟩ | ⟨hroot, _⟩, _⟩
          · exact hother hroot
          · cases hdirectory.symm.trans hroot
      | true =>
          simp only [glob_sourceFiles_of_directory hdirectory, Bool.false_eq_true, if_false,
            Bool.not_true]
          let skips (p : Path) : Bool :=
            (directoriesBelow root p).any fun d => skippedDirectories.contains d || d.startsWith "."
          obtain ⟨files, hfiles, hmem⟩ := mem_filesIn skips isPluginFile
            (fun x hx => hsearch.of_mem_select hdirectory hx) fun p _ hp => hresolve p hp
          refine ⟨files, hfiles, fun q => (hmem q).trans ?_⟩
          simp only [mem_select_sourceFiles ht]
          constructor
          · rintro ⟨_, ⟨p, name, hreaches, hname, haccepts, rfl⟩, hkept, hin, hplugin, hq⟩
            exact ⟨_, .inside hdirectory hreaches hname haccepts hkept hin hplugin, hq⟩
          · rintro ⟨_, ⟨hroot, _⟩ | ⟨_, hreaches, hname, haccepts, hkept, hin, hplugin⟩, hq⟩
            · exact absurd hroot hother
            · exact ⟨_, ⟨_, _, hreaches, hname, haccepts, rfl⟩, hkept, hin, hplugin, hq⟩

/-! ## More files -/

namespace AddsFiles

variable {more : FileTree π} (h : t.AddsFiles more) (ht : t.Clear) (hmore : more.Clear)

include h ht hmore

theorem isFile_of_isFile {p : Path} (hp : t.isFile p = .ok true) : more.isFile p = .ok true := by
  obtain ⟨place, bytes, program, hlocate⟩ := isFile_iff.mp hp
  exact isFile_iff.mpr ⟨place, bytes, program, h.locate_of_locate ht hmore hlocate⟩

theorem isDirectory_iff {p : Path} :
    more.isDirectory p = .ok true ↔ t.isDirectory p = .ok true := by
  simp only [FileTree.isDirectory_iff, h.locate_directory_iff ht hmore]

theorem lists {p : Path} {name : String} (hname : t.Lists p name) : more.Lists p name := by
  obtain ⟨place, hplace, -, hentry⟩ := hname
  obtain ⟨e, he⟩ := Option.isSome_iff_exists.mp hentry
  exact ⟨place, (h.locate_directory_iff ht hmore).mpr hplace, hmore.isClosed_eq_false place,
    Option.isSome_of_eq_some (h.kept _ e he)⟩

theorem isOwnDirectory_iff {p : Path} {name : String} :
    more.isOwnDirectory (p.child name) = true ↔ t.isOwnDirectory (p.child name) = true := by
  simp only [isOwnDirectory_child, h.locate_directory_iff ht hmore, h.directory_iff]

theorem reaches_iff {p q : Path} : more.Reaches p q ↔ t.Reaches p q := by
  constructor
  · intro hreaches
    induction hreaches with
    | here p => exact .here p
    | under hname hown _ ih =>
        have hown := (h.isOwnDirectory_iff ht hmore).mp hown
        obtain ⟨place, hplace, hentry⟩ := isOwnDirectory_child.mp hown
        exact .under ⟨place, hplace, ht.isClosed_eq_false place, Option.isSome_of_eq_some hentry⟩
          hown ih
  · intro hreaches
    induction hreaches with
    | here p => exact .here p
    | under hname hown _ ih =>
        exact .under (h.lists ht hmore hname) ((h.isOwnDirectory_iff ht hmore).mpr hown) ih

theorem candidate {root p : Path} (hp : t.Candidate root p) : more.Candidate root p := by
  cases hp with
  | itself hfile hname => exact .itself (h.isFile_of_isFile ht hmore hfile) hname
  | inside hroot hreaches hname haccepts hkept hfile hplugin =>
      exact .inside ((h.isDirectory_iff ht hmore).mpr hroot)
        ((h.reaches_iff ht hmore).mpr hreaches) (h.lists ht hmore hname) haccepts hkept
        (h.isFile_of_isFile ht hmore hfile) hplugin

/-- A plugin that is found is one that was found before, or a new file. -/
theorem candidate_or_new {root p : Path} (hp : more.Candidate root p) :
    t.Candidate root p ∨ t.isFile p ≠ .ok true := by
  by_cases hold : t.isFile p = .ok true
  · refine .inl ?_
    cases hp with
    | itself hfile hname => exact .itself hold hname
    | @inside p name hroot hreaches hname haccepts hkept hfile hplugin =>
        obtain ⟨place, hplace, -, hentry⟩ := hname
        obtain ⟨e, he⟩ := Option.isSome_iff_exists.mp hentry
        have hup : name ≠ ".." := fun hup => hmore.up_not_mem he (by simp [hup])
        have hplace := (h.locate_directory_iff ht hmore).mp hplace
        -- the old file stands under its name in the same directory
        obtain ⟨q, bytes, program, hlocate⟩ := isFile_iff.mp hold
        have hold_entry := entry?_of_locate hlocate
        rw [ht.of_locate_child hplace hup hlocate] at hold_entry
        exact .inside ((h.isDirectory_iff ht hmore).mp hroot)
          ((h.reaches_iff ht hmore).mp hreaches)
          ⟨place, hplace, ht.isClosed_eq_false place, Option.isSome_of_eq_some hold_entry⟩
          haccepts hkept hold hplugin
  · exact .inr hold

end AddsFiles

end FileTree

end Assay
