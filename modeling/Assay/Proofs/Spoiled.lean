import Assay.Proofs.FoundFiles
import Assay.Proofs.Registry
import Assay.Proofs.Runner

/-! # Spoiled plugins

A plugin is spoiled if it cannot be loaded or its analyzers cannot be listed, and so is a member of
a plugin that cannot be looked at or wrapped. Spoiled things are logged, one error for each, and the
registry becomes what it becomes without them, wherever they stand in the order of the files.
-/

namespace Assay.Plugin.Registry

/-! ## Steps -/

theorem loadAll_congr {tree other : FileTree Program} {files : List Path}
    (h : ∀ p ∈ files, load other p = load tree p) (r : Registry) :
    loadAll other r files = loadAll tree r files := by
  rw [loadAll_eq_each, loadAll_eq_each]
  induction files generalizing r with
  | nil => rfl
  | cons path rest ih =>
      obtain ⟨hpath, hrest⟩ := List.forall_mem_cons.mp h
      simp only [each, loadOne, hpath, ih hrest]

/-- A log with some entries more than another, all in one place. -/
def Inserted (lines log more : List LogEntry) : Prop :=
  ∃ front back, log = front ++ back ∧ more = front ++ lines ++ back

namespace Inserted

variable {lines log more : List LogEntry}

theorem append_left (h : Inserted lines log more) (front : List LogEntry) :
    Inserted lines (front ++ log) (front ++ more) := by
  obtain ⟨before, after, rfl, rfl⟩ := h
  exact ⟨front ++ before, after, by simp, by simp⟩

theorem append_right (h : Inserted lines log more) (back : List LogEntry) :
    Inserted lines (log ++ back) (more ++ back) := by
  obtain ⟨before, after, rfl, rfl⟩ := h
  exact ⟨before, after ++ back, by simp, by simp⟩

end Inserted

variable {α : Type} {step : Registry → α → Logged (Except Failure Nat × Registry)}

/-- A step that registers nothing can be left out. What it logs is missing then. -/
theorem each_insert {holds : Registry → Prop} {tells : List LogEntry → Prop} {a : α}
    (hkeep : ∀ r b, holds r → holds (step r b).value.2)
    (hidle : ∀ r, holds r → (step r a).value = (.ok 0, r) ∧ tells (step r a).log)
    {r : Registry} (hr : holds r) (front back : List α) :
    (each step r (front ++ a :: back)).value = (each step r (front ++ back)).value ∧
      ∀ n, (each step r (front ++ back)).value.1 = .ok n → ∃ lines, tells lines ∧
        Inserted lines (each step r (front ++ back)).log
          (each step r (front ++ a :: back)).log := by
  induction front generalizing r with
  | nil =>
      obtain ⟨hvalue, htells⟩ := hidle r hr
      simp only [List.nil_append, each, andThen_value, andThen_log, hvalue, Nat.zero_add, map_count,
        true_and]
      exact fun n _ => ⟨_, htells, [], _, rfl, rfl⟩
  | cons b front ih =>
      obtain ⟨hvalue, hlog⟩ := ih (hkeep r b hr)
      simp only [List.cons_append, each, andThen_value, andThen_log]
      cases hfirst : (step r b).value.1 with
      | error failure =>
          refine ⟨rfl, fun n hn => ?_⟩
          cases hn
      | ok count =>
          refine ⟨by simp only [hvalue], fun n hn => ?_⟩
          obtain ⟨k, hk, _⟩ := Attempt.of_map_eq_ok hn
          obtain ⟨lines, hlines, hinserted⟩ := hlog k hk
          exact ⟨lines, hlines, hinserted.append_left _⟩

/-! ## Plugins -/

/-- A plugin of which nothing can be registered, with the log entry for it: it fails while it is
loaded, without ending the scan, or its analyzers cannot be listed. -/
inductive Spoiled (tree : FileTree Program) (path : Path) : LogEntry → Prop where
  | unloadable {failure : Failure} (hload : load tree path = .error failure)
      (hends : endsScan failure = false) :
      Spoiled tree path
        { level := .error
          text := s!"Could not load analyzers from {path.toString}: " ++ failure.shown }
  | unlisted {m : Module} {failure : Failure} (hload : load tree path = .ok m)
      (hlist : m.candidates = .error failure) (hexit : failure.isExit = false) :
      Spoiled tree path
        { level := .error
          text := s!"Could not list analyzers of {moduleSource m (some path.toString)}: " ++
            failure.text }

theorem Spoiled.loadOne {tree : FileTree Program} {path : Path} {entry : LogEntry}
    (h : Spoiled tree path entry) (r : Registry) :
    (loadOne tree r path).value = (.ok 0, r) ∧ errorsOf (loadOne tree r path).log = [entry] := by
  cases h with
  | unloadable hload hends =>
      simp only [Registry.loadOne, hload, hends]
      exact ⟨rfl, rfl⟩
  | unlisted hload hlist hexit =>
      simp only [Registry.loadOne, hload, registerModule, hlist, hexit]
      exact ⟨rfl, rfl⟩

/-- Spoiled plugins can be left out: the registry and the count are the same, and each plugin that
is left out is one error less in the log. -/
theorem loadAll_filter {tree : FileTree Program} {extra : List Path} {record : Path → LogEntry}
    (hspoiled : ∀ p ∈ extra, Spoiled tree p (record p)) (r : Registry) (all : List Path) :
    (loadAll tree r all).value = (loadAll tree r (all.filter (· ∉ extra))).value ∧
      ∀ n, (loadAll tree r all).value.1 = .ok n →
        (errorsOf (loadAll tree r all).log).Perm
          (errorsOf (loadAll tree r (all.filter (· ∉ extra))).log ++
            (all.filter (· ∈ extra)).map record) := by
  simp only [loadAll_eq_each]
  induction all generalizing r with
  | nil => exact ⟨rfl, fun _ _ => List.Perm.refl _⟩
  | cons path rest ih =>
      by_cases hpath : path ∈ extra
      · obtain ⟨hvalue, herrors⟩ := (hspoiled path hpath).loadOne r
        obtain ⟨hrest, hlog⟩ := ih r
        rw [List.filter_cons_of_neg (by simpa using hpath),
          List.filter_cons_of_pos (by simpa using hpath), each, andThen_value, andThen_log, hvalue]
        simp only [Nat.zero_add, map_count, errorsOf_append, herrors, List.map_cons]
        refine ⟨hrest, fun n hn => ?_⟩
        exact ((hlog n hn).cons (record path)).trans List.perm_middle.symm
      · obtain ⟨hrest, hlog⟩ := ih (loadOne tree r path).value.2
        rw [List.filter_cons_of_pos (by simpa using hpath),
          List.filter_cons_of_neg (by simpa using hpath), each, each, andThen_value, andThen_value,
          andThen_log, andThen_log]
        cases hfirst : (loadOne tree r path).value.1 with
        | error failure =>
            refine ⟨rfl, fun n hn => ?_⟩
            cases hn
        | ok count =>
            refine ⟨by simp only [hrest], fun n hn => ?_⟩
            obtain ⟨k, hk, _⟩ := Attempt.of_map_eq_ok hn
            simp only [errorsOf_append, List.append_assoc]
            exact (hlog k hk).append_left _

/-- A tree with more plugins under a root than another has. The others are the same. -/
structure MorePlugins (tree more : FileTree Program) (root : Path) (files extra : List Path) :
    Prop where
  found : tree.pluginFiles root = .ok files
  added : ∃ all, more.pluginFiles root = .ok all ∧ ∀ p, p ∈ all ↔ p ∈ files ∨ p ∈ extra
  distinct : extra.Nodup
  apart : ∀ p ∈ extra, p ∉ files
  same : ∀ p ∈ files, load more p = load tree p

/-- More plugins stand anywhere between the others, which keep their order. -/
theorem MorePlugins.order {tree more : FileTree Program} {root : Path} {files extra : List Path}
    (h : MorePlugins tree more root files extra) :
    ∃ all, more.pluginFiles root = .ok all ∧ all.filter (· ∉ extra) = files ∧
      (all.filter (· ∈ extra)).Perm extra ∧ all.length = files.length + extra.length := by
  obtain ⟨all, hall, hmem⟩ := h.added
  have horder := FileTree.pluginFiles_inOrder hall
  have hfiles : all.filter (· ∉ extra) = files := by
    refine (horder.filter _).eq_of_mem_iff (FileTree.pluginFiles_inOrder h.found) fun p => ?_
    have hapart := h.apart p
    simp only [List.mem_filter, hmem, decide_eq_true_eq]
    tauto
  have hextra : (all.filter (· ∈ extra)).Perm extra := by
    refine (List.perm_ext_iff_of_nodup (horder.nodup.filter _) h.distinct).mpr fun p => ?_
    simp only [List.mem_filter, hmem, decide_eq_true_eq]
    tauto
  refine ⟨all, hall, hfiles, hextra, ?_⟩
  have hsplit := (List.filter_append_perm (· ∈ extra) all).length_eq
  have hrest : (all.filter fun p => !decide (p ∈ extra)) = files := by
    simpa only [decide_not] using hfiles
  rw [List.length_append, hrest, hextra.length_eq] at hsplit
  omega

/-- What is loaded from a path is decided by what it leads to. -/
theorem load_congr {tree more : FileTree Program} {p : Path} (hresolve : tree.resolve p = .ok p)
    (hmore : more.resolve p = .ok p) (hlocate : more.locate p = tree.locate p) :
    load more p = load tree p := by
  simp only [load, hresolve, hmore, Attempt.ok_bind, FileTree.program?, FileTree.readBytes, hlocate]

/-- A tree to which files are added has more plugins, or the same: the new ones among the files. -/
theorem MorePlugins.of_addsFiles {tree more : FileTree Program} (htree : tree.Clear)
    (hmore : more.Clear) (h : tree.AddsFiles more) {root : Path} (hsearch : tree.Searchable root)
    (hsearchMore : more.Searchable root) :
    ∃ files extra, MorePlugins tree more root files extra ∧
      ∀ p ∈ extra, tree.entry? p.parts = none ∧ more.isFile p = .ok true := by
  obtain ⟨files, hfiles, hmem⟩ := FileTree.mem_pluginFiles htree.toPlain hsearch
  obtain ⟨all, hall, hmemAll⟩ := FileTree.mem_pluginFiles hmore.toPlain hsearchMore
  simp only [h.resolve_eq htree.toPlain hmore.toPlain] at hmemAll
  refine ⟨files, all.filter (· ∉ files), ⟨hfiles, ⟨all, hall, fun p => ?_⟩, ?_, ?_, ?_⟩, ?_⟩
  · have hkept : p ∈ files → p ∈ all := by
      rw [hmem, hmemAll]
      exact fun ⟨q, hq, hp⟩ => ⟨q, h.candidate htree hmore hq, hp⟩
    simp only [List.mem_filter, decide_eq_true_eq]
    tauto
  · exact (FileTree.pluginFiles_inOrder hall).nodup.filter _
  · exact fun p hp => of_decide_eq_true (List.mem_filter.mp hp).2
  · intro p hp
    obtain ⟨q, hq, hresolve⟩ := (hmem p).mp hp
    obtain ⟨place, bytes, program, hlocate⟩ := FileTree.isFile_iff.mp hq.isFile
    cases hresolve.symm.trans (htree.resolve_of_locate hlocate)
    have hend := htree.locate_resolved hlocate
    have hself := htree.resolve_of_locate hend
    exact load_congr hself ((h.resolve_eq htree.toPlain hmore.toPlain _).trans hself)
      ((h.locate_of_locate htree hmore hend).trans hend.symm)
  · intro p hp
    obtain ⟨hpAll, hpNew⟩ := List.mem_filter.mp hp
    obtain ⟨q, hq, hresolve⟩ := (hmemAll p).mp hpAll
    have hqNew : tree.isFile q ≠ .ok true :=
      (h.candidate_or_new htree hmore hq).resolve_left fun hold =>
        of_decide_eq_true hpNew ((hmem p).mpr ⟨q, hold, hresolve⟩)
    obtain ⟨place, bytes, program, hlocate⟩ := FileTree.isFile_iff.mp hq.isFile
    have hplace := hmore.toPlain.resolve_of_locate hlocate
    rw [h.resolve_eq htree.toPlain hmore.toPlain] at hplace
    cases hresolve.symm.trans hplace
    refine ⟨?_, FileTree.isFile_iff.mpr ⟨place, bytes, program, hmore.locate_resolved hlocate⟩⟩
    -- an old file is one of the files, so what stands there is new
    rcases h.locate_or_new htree hmore hlocate with hold | ⟨hnone, _⟩
    · exact absurd (FileTree.isFile_iff.mpr ⟨place, bytes, program, hold⟩) hqNew
    · exact hnone

/-! ## Members -/

/-- A member at which a registry fails, with an ordinary failure: its marker cannot be looked for, or
it is marked and cannot be looked at or wrapped. -/
structure Unreadable (r : Registry) (source : String) (member : String × Object) (failure : Failure) :
    Prop where
  fails : Offer.failureAt? r (some source) member.2 = some failure
  ordinary : failure.isExit = false

/-- The log entry for a member that a registry fails at. -/
def inspectionRecord (source : String) (member : String × Object) (failure : Failure) : LogEntry :=
  { level := .error, text := s!"Inspecting {member.1} in {source} failed: " ++ failure.text }

/-- What is logged about a member that a registry fails at: an error, and in front of it a warning if
the registry has nothing against what the member offers but cannot wrap it. -/
inductive Told (r : Registry) (source : String) (member : String × Object) (failure : Failure) :
    List LogEntry → Prop where
  | once : Told r source member failure [inspectionRecord source member failure]
  | afterWarning {o : Offer} (hmarked : Offer.ofObject? (some source) member.2 = some o)
      (hfit : o.isFit r = true) (hwrap : o.canWrap = false) (previous : Descriptor) :
      Told r source member failure
        [replacementRecord o.descriptor previous, inspectionRecord source member failure]

section

variable {r : Registry} {source : String} {member : String × Object} {failure : Failure}

/-- What a registry holds does not matter for what it fails at. -/
theorem Unreadable.takeAll (h : Unreadable r source member failure) (offers : List Offer) :
    Unreadable (r.takeAll offers) source member failure :=
  ⟨h.fails, h.ordinary⟩

theorem Told.of_takeAll {lines : List LogEntry} {offers : List Offer}
    (h : Told (r.takeAll offers) source member failure lines) :
    Told r source member failure lines := by
  cases h with
  | once => exact .once
  | afterWarning hmarked hfit hwrap previous =>
      have hsame : Offer.isFit r _ = true := hfit
      exact .afterWarning hmarked hsame hwrap previous

/-- Before a registry fails at an offer it logs nothing but a warning. -/
theorem registerMarked_log_of_failure? {o : Offer} (h : o.failure? r = some failure) :
    (r.registerMarked o.function o.marker o.source).log = r.warningFor o := by
  have hfit := o.refusal?_eq_ok_none_iff r
  unfold Offer.failure? at h
  unfold registerMarked warningFor
  cases hrefusal : r.refusal? o.function o.marker with
  | error f =>
      have hunfit : o.isFit r = false := by simpa [hrefusal] using hfit
      simp [hunfit]
  | ok refusal =>
      cases refusal with
      | some refusal => simp [hrefusal] at h
      | none =>
          have hfit : o.isFit r = true := hfit.mp hrefusal
          simp only [hrefusal, Attempt.failure?_eq_some_iff] at h
          unfold accept
          cases r.find? o.marker.name <;>
            simp [h, hfit, Logged.note, replacementRecord, Offer.descriptor, descriptorOf]

/-- Nor does it log anything else before it fails at an object. -/
theorem registerIfMarked_log_of_failureAt? {o : Object}
    (h : Offer.failureAt? r (some source) o = some failure) :
    (r.registerIfMarked o (some source)).log =
      (Offer.ofObject? (some source) o).toList.flatMap r.warningFor := by
  unfold Offer.failureAt? Offer.ofObject? at h
  unfold registerIfMarked Offer.ofObject?
  cases hmarker : o.marker with
  | error f => rfl
  | ok marker =>
      rw [hmarker] at h
      cases marker with
      | none => rfl
      | some m =>
          cases hfunction : o.toFunction? with
          | none => rfl
          | some f =>
              rw [hfunction] at h
              have hlog := registerMarked_log_of_failure? h
              simpa using hlog

theorem told_of_unreadable (h : Unreadable r source member failure) :
    Told r source member failure ((r.registerIfMarked member.2 (some source)).log ++
      [inspectionRecord source member failure]) := by
  rw [registerIfMarked_log_of_failureAt? h.fails]
  cases hoffer : Offer.ofObject? (some source) member.2 with
  | none => exact .once
  | some o =>
      have hfails := h.fails
      rw [Offer.failureAt?_of_offer hoffer] at hfails
      have hrefused := Offer.isAccepted_of_failure? hfails
      rw [Option.toList_some, List.flatMap_singleton, warningFor]
      split
      next hfit =>
        have hwrap : o.canWrap = false := by simpa [Offer.isAccepted, hfit] using hrefused
        cases r.find? o.marker.name with
        | none => exact .once
        | some previous => exact .afterWarning hoffer hfit hwrap previous
      next => exact .once

theorem registerMember_of_unreadable (h : Unreadable r source member failure) :
    (registerMember source r member).value = (.ok 0, r) ∧
      Told r source member failure (registerMember source r member).log := by
  have hspec := (registerIfMarked_spec r member.2 (some source)).1
  have hafter : r.takeAll (Offer.ofObject? (some source) member.2).toList = r := by
    rw [Registry.takeAll, accepted_of_failureAt? h.fails]
    rfl
  rw [h.fails, hafter] at hspec
  -- the log is looked at as it is written, so what a run comes to is not enough here
  simp only [registerMember, Logged.value_bind, Logged.log_bind, hspec, h.ordinary]
  exact ⟨rfl, told_of_unreadable h⟩

end

/-- The members around one that a registry fails at are registered as if it were absent. -/
theorem registerCandidates_of_unreadable {r : Registry} {source : String}
    {member : String × Object} {failure : Failure}
    (h : Unreadable r source member failure) (front back : List (String × Object)) :
    (registerCandidates source r (front ++ member :: back)).value =
        (registerCandidates source r (front ++ back)).value ∧
      ∀ n, (registerCandidates source r (front ++ back)).value.1 = .ok n →
        ∃ lines, Told r source member failure lines ∧
          Inserted lines (registerCandidates source r (front ++ back)).log
            (registerCandidates source r (front ++ member :: back)).log := by
  simp only [registerCandidates_eq_each]
  have hkeep : ∀ (after : Registry) (b : String × Object), (∃ offers, after = r.takeAll offers) →
      ∃ offers, (registerMember source after b).value.2 = r.takeAll offers := by
    rintro _ b ⟨offers, rfl⟩
    rw [(registerMember_runs source _ b).after, ← takeAll_append]
    exact ⟨_, rfl⟩
  refine each_insert hkeep ?_ ⟨[], rfl⟩ front back
  rintro _ ⟨offers, rfl⟩
  obtain ⟨hvalue, htold⟩ := registerMember_of_unreadable (h.takeAll offers)
  exact ⟨hvalue, htold.of_takeAll⟩

/-- A module with a member among its candidates, and the same module without it. -/
structure WithMember (m less : Module) (member : String × Object) : Prop where
  name : less.name = m.name
  file : less.file = m.file
  candidates : ∃ front back, m.candidates = .ok (front ++ member :: back) ∧
    less.candidates = .ok (front ++ back)

theorem registerModule_of_unreadable {r : Registry} {m less : Module} {source : Option String}
    {member : String × Object} {failure : Failure} (hmember : WithMember m less member)
    (h : Unreadable r (moduleSource m source) member failure) :
    (r.registerModule m source).value = (r.registerModule less source).value ∧
      ∀ n, (r.registerModule less source).value.1 = .ok n →
        ∃ lines, Told r (moduleSource m source) member failure lines ∧
          Inserted lines (r.registerModule less source).log (r.registerModule m source).log := by
  obtain ⟨front, back, hm, hless⟩ := hmember.candidates
  have hsource : moduleSource less source = moduleSource m source := by
    unfold moduleSource
    rw [hmember.name, hmember.file]
  simp only [registerModule, hm, hless, hsource]
  exact registerCandidates_of_unreadable h front back

/-- A tree, and the same tree with one member less in one of the plugins under a root. -/
structure MoreMembers (tree less : FileTree Program) (root path : Path) (m : Module)
    (member : String × Object) : Prop where
  found : ∃ files, tree.pluginFiles root = .ok files ∧ less.pluginFiles root = .ok files ∧
    path ∈ files ∧ ∀ p ∈ files, p ≠ path → load less p = load tree p
  loaded : load tree path = .ok m
  absent : ∃ rest, load less path = .ok rest ∧ WithMember m rest member

theorem loadOne_of_unreadable {tree less : FileTree Program} {r : Registry} {path : Path}
    {m without : Module} {member : String × Object} {failure : Failure}
    (htree : load tree path = .ok m) (hless : load less path = .ok without)
    (hmember : WithMember m without member)
    (h : Unreadable r (moduleSource m (some path.toString)) member failure) :
    (loadOne tree r path).value = (loadOne less r path).value ∧
      ∀ n, (loadOne less r path).value.1 = .ok n →
        ∃ lines,
          Told r (moduleSource m (some path.toString)) member failure lines ∧
          Inserted lines (loadOne less r path).log (loadOne tree r path).log := by
  obtain ⟨hvalue, hlog⟩ := registerModule_of_unreadable hmember h
  simp only [loadOne, htree, hless, Logged.value_bind, Logged.log_bind, hvalue, true_and]
  cases hfirst : (r.registerModule without (some path.toString)).value.1 with
  | error f =>
      intro n hn
      cases hn
  | ok count =>
      obtain ⟨lines, htold, hinserted⟩ := hlog count hfirst
      exact fun n _ => ⟨lines, htold, hinserted.append_right _⟩

/-- The plugins behind one with a member that a registry fails at are registered as if the member
were absent. -/
theorem loadAll_of_unreadable {tree less : FileTree Program} {root path : Path} {m : Module}
    {member : String × Object} {failure : Failure}
    (hmember : MoreMembers tree less root path m member) {r : Registry}
    (h : Unreadable r (moduleSource m (some path.toString)) member failure)
    {files : List Path} (hnodup : files.Nodup) (hpath : path ∈ files)
    (hsame : ∀ p ∈ files, p ≠ path → load less p = load tree p) :
    (loadAll tree r files).value = (loadAll less r files).value ∧
      ∀ n, (loadAll less r files).value.1 = .ok n →
        ∃ lines,
          Told r (moduleSource m (some path.toString)) member failure lines ∧
          Inserted lines (loadAll less r files).log (loadAll tree r files).log := by
  induction files generalizing r with
  | nil => exact absurd hpath List.not_mem_nil
  | cons first rest ih =>
      obtain ⟨hfirst, hnodup⟩ := List.nodup_cons.mp hnodup
      obtain ⟨hsameFirst, hsameRest⟩ := List.forall_mem_cons.mp hsame
      simp only [loadAll_eq_each, each, andThen_value, andThen_log] at ih ⊢
      rcases List.mem_cons.mp hpath with rfl | hpath
      · obtain ⟨without, hwithout, hmodule⟩ := hmember.absent
        obtain ⟨hvalue, hlog⟩ := loadOne_of_unreadable hmember.loaded hwithout hmodule h
        have hrest : ∀ r, each (loadOne less) r rest = each (loadOne tree) r rest := fun r => by
          rw [← loadAll_eq_each, ← loadAll_eq_each]
          exact loadAll_congr (fun p hp => hsameRest p hp fun heq => hfirst (heq ▸ hp)) r
        simp only [hvalue, hrest, true_and]
        cases hcount : (loadOne less r path).value.1 with
        | error f =>
            intro n hn
            cases hn
        | ok count =>
            obtain ⟨lines, htold, hinserted⟩ := hlog count hcount
            exact fun n _ => ⟨lines, htold, hinserted.append_right _⟩
      · have hload := hsameFirst fun heq => hfirst (heq ▸ hpath)
        have hone : loadOne less r first = loadOne tree r first := by simp only [loadOne, hload]
        have hruns := loadOne_runs tree r first
        obtain ⟨hvalue, hlog⟩ := ih (hruns.after ▸ h.takeAll _) hnodup hpath hsameRest
        rw [hone]
        cases (loadOne tree r first).value.1 with
        | error f =>
            refine ⟨rfl, fun n hn => ?_⟩
            cases hn
        | ok count =>
            refine ⟨by simp only [hvalue], fun n hn => ?_⟩
            obtain ⟨k, hk, _⟩ := Attempt.of_map_eq_ok hn
            obtain ⟨lines, htold, hinserted⟩ := hlog k hk
            rw [hruns.after] at htold
            exact ⟨lines, htold.of_takeAll, hinserted.append_left _⟩

/-! ## Scans -/

theorem scan_of_more {tree more : FileTree Program} {root : Path} {files extra : List Path}
    {record : Path → LogEntry} (h : MorePlugins tree more root files extra)
    (hspoiled : ∀ p ∈ extra, Spoiled more p (record p)) (r : Registry) :
    (scan more r root).value =
        ((scan tree r root).value.1.map fun c => (c.1 + extra.length, c.2),
          (scan tree r root).value.2) ∧
      ∀ c, (scan more r root).value.1 = .ok c →
        (errorsOf (scan more r root).log).Perm
          (errorsOf (scan tree r root).log ++ extra.map record) := by
  obtain ⟨all, hall, hfiles, hextra, hlength⟩ := h.order
  obtain ⟨hmore, moreEntry, hmoreLevel, hmoreLog⟩ := scan_of_found hall r
  obtain ⟨htree, treeEntry, htreeLevel, htreeLog⟩ := scan_of_found h.found r
  obtain ⟨hvalue, hlog⟩ := loadAll_filter hspoiled r all
  rw [hfiles, loadAll_congr h.same] at hvalue hlog
  have herrors : ∀ (entry : LogEntry) log, entry.level = .debug →
      errorsOf (entry :: log) = errorsOf log := by
    intro entry log hlevel
    simp [errorsOf, hlevel]
  rw [hmore, htree, hmoreLog, htreeLog, herrors _ _ hmoreLevel, herrors _ _ htreeLevel, hvalue,
    hlength]
  refine ⟨?_, fun c hc => ?_⟩
  · cases (loadAll tree r files).value.1 <;> rfl
  · obtain ⟨n, hn, _⟩ := Attempt.of_map_eq_ok hc
    exact (hlog n (by rw [hvalue, hn])).trans ((hextra.map record).append_left _)

theorem scan_of_unreadable {tree less : FileTree Program} {root path : Path} {m : Module}
    {member : String × Object} {failure : Failure} {r : Registry}
    (hmember : MoreMembers tree less root path m member)
    (h : Unreadable r (moduleSource m (some path.toString)) member failure) :
    (scan tree r root).value = (scan less r root).value ∧
      ∀ c, (scan less r root).value.1 = .ok c →
        ∃ lines,
          Told r (moduleSource m (some path.toString)) member failure lines ∧
          Inserted lines (scan less r root).log (scan tree r root).log := by
  obtain ⟨files, htree, hless, hpath, hsame⟩ := hmember.found
  obtain ⟨hvalue, hlog⟩ := loadAll_of_unreadable hmember h
    (FileTree.pluginFiles_inOrder htree).nodup hpath hsame
  simp only [scan, htree, hless, Logged.value_bind, Logged.log_bind, hvalue, true_and]
  intro c hc
  obtain ⟨n, hn, _⟩ := Attempt.of_map_eq_ok hc
  obtain ⟨lines, htold, hinserted⟩ := hlog n hn
  exact ⟨lines, htold, (hinserted.append_right _).append_left _⟩

/-! ## Directories of plugins -/

/-- A directory of plugins with the programs of some files. -/
def pluginTree (programs : List (String × Program)) : FileTree Program :=
  { entries := (["an"], .directory) :: programs.map fun p => (["an", p.1], .file [] (some p.2)) }

/-- A plugin in the directory. -/
def place (name : String) : Path := { root := .slash, parts := ["an", name] }

theorem clear_pluginTree {programs : List (String × Program)}
    (h : programs.all (fun p => FileTree.isClearPlace ["an", p.1]) = true) :
    (pluginTree programs).Clear := by
  refine .of_entries ?_ ?_ rfl
  · intro e he target
    rcases List.mem_cons.mp he with rfl | he
    · simp
    · obtain ⟨p, _, rfl⟩ := List.mem_map.mp he
      simp
  · intro e he
    rcases List.mem_cons.mp he with rfl | he
    · decide +kernel
    · obtain ⟨p, hp, rfl⟩ := List.mem_map.mp he
      exact List.all_eq_true.mp h p hp

theorem searchable_pluginTree {programs : List (String × Program)}
    (h : (pluginTree programs).Clear) : (pluginTree programs).Searchable (.ofPlace ["an"]) := by
  have hroom : (pluginTree programs).HasRoom (.ofPlace ["an"]) := h.hasRoom_ofPlace (by decide)
  have hroot : (pluginTree programs).locate (.ofPlace ["an"]) = .ok (["an"], .directory) := by rfl
  exact h.searchable hroom (FileTree.answers_of_locate hroot)

theorem pluginTree_addsFiles (programs added : List (String × Program)) :
    (pluginTree programs).AddsFiles (pluginTree (programs ++ added)) := by
  have hentries : (pluginTree (programs ++ added)).entries = (pluginTree programs).entries ++
      added.map fun p => (["an", p.1], .file [] (some p.2)) := by
    simp [pluginTree]
  have hadds : (pluginTree programs).AddsFiles
      { pluginTree programs with entries := (pluginTree (programs ++ added)).entries } := by
    rw [hentries]
    refine .of_append fun e he => ?_
    obtain ⟨p, _, rfl⟩ := List.mem_map.mp he
    exact ⟨[], some p.2, rfl⟩
  exact hadds

/-- A plugin that fails when it is loaded. -/
def unloadable (f : Failure) : Program := { failure := some f }

/-- A plugin that exports what is no list of names. -/
def unlistable : Program := { exports := .int 5 }

/-- A plugin with two analyzers, the second of which has a name that cannot be looked up. -/
def halfSpoiled (exports : List Value) : Program :=
  { members := [.function { name := "a", marker := some { kind := .cli, name := .text "A" } },
      .function { name := "b", marker := some { kind := .cli, name := .list [] } }]
    exports := .list exports }

theorem halfSpoiled_pluginAt (p : Path) :
    ∃ m less o, (halfSpoiled [.text "a", .text "b"]).pluginAt p = .ok m ∧
      (halfSpoiled [.text "a"]).pluginAt p = .ok less ∧ WithMember m less ("b", o) ∧
      ∀ source, ∃ failure, Unreadable {} source ("b", o) failure :=
  ⟨_, _, _, rfl, rfl, ⟨rfl, rfl, [_], [], rfl, rfl⟩, fun _ => ⟨_, rfl, rfl⟩⟩

/-! ## Undisturbed scans -/

/-- Spoiled plugins and spoiled members are logged, and that is all. Adding files to a tree is one
way to have more plugins in it. -/
theorem scan_undisturbed (r : Registry) :
    (∀ tree more root, tree.Clear → more.Clear → tree.AddsFiles more → tree.Searchable root →
      more.Searchable root → ∃ files extra, MorePlugins tree more root files extra ∧
        ∀ p ∈ extra, tree.entry? p.parts = none ∧ more.isFile p = .ok true) ∧
    (∀ tree more root files extra record, MorePlugins tree more root files extra →
      (∀ p ∈ extra, Spoiled more p (record p)) →
        (scan more r root).value =
          ((scan tree r root).value.1.map fun c => (c.1 + extra.length, c.2),
            (scan tree r root).value.2) ∧
        (r.stop? (scanTurns tree root) = none →
          ∃ n, (scan more r root).value.1 = .ok (files.length + extra.length, n)) ∧
        ∀ c, (scan more r root).value.1 = .ok c →
          (errorsOf (scan more r root).log).Perm
            (errorsOf (scan tree r root).log ++ extra.map record)) ∧
    (∀ m less source member failure, WithMember m less member →
      Unreadable r (moduleSource m source) member failure →
        (r.registerModule m source).value = (r.registerModule less source).value ∧
        ∀ n, (r.registerModule less source).value.1 = .ok n →
          ∃ lines, Told r (moduleSource m source) member failure lines ∧
            Inserted lines (r.registerModule less source).log (r.registerModule m source).log) ∧
    (∀ tree less root path m member failure, MoreMembers tree less root path m member →
      Unreadable r (moduleSource m (some path.toString)) member failure →
        (scan tree r root).value = (scan less r root).value ∧
        ∀ c, (scan less r root).value.1 = .ok c → ∃ lines,
          Told r (moduleSource m (some path.toString)) member failure lines ∧
          Inserted lines (scan less r root).log (scan tree r root).log) := by
  refine ⟨fun tree more root htree hmore h hsearch hsearchMore =>
      MorePlugins.of_addsFiles htree hmore h hsearch hsearchMore, ?_,
    fun m less source member failure hmember h => registerModule_of_unreadable hmember h,
    fun tree less root path m member failure hmember h => scan_of_unreadable hmember h⟩
  intro tree more root files extra record h hspoiled
  obtain ⟨hvalue, hlog⟩ := scan_of_more h hspoiled r
  refine ⟨hvalue, fun hquiet => ?_, hlog⟩
  obtain ⟨htree, _⟩ := scan_of_found h.found r
  have houtcome := (loadAll_runs tree r files).outcome
  simp only [scanTurns, h.found] at hquiet
  rw [hquiet] at houtcome
  rw [hvalue, htree, houtcome]
  exact ⟨_, rfl⟩

/-- Among three plugins the first cannot be loaded, the second has a member that cannot be looked
at, and the analyzers of the third cannot be listed. What remains is the other member of the second. -/
theorem scan_undisturbed_three :
    let root : Path := { root := .slash, parts := ["an"] }
    let both := halfSpoiled [.text "a", .text "b"]
    let less := pluginTree [("b_analyzer.py", halfSpoiled [.text "a"])]
    let more := pluginTree [("b_analyzer.py", both), ("a_analyzer.py", unloadable (.value "no")),
      ("c_analyzer.py", unlistable)]
    (scan more {} root).value =
        ((scan less {} root).value.1.map fun c => (c.1 + 2, c.2), (scan less {} root).value.2) ∧
      ∃ m without, load more (place "b_analyzer.py") = .ok m ∧
        load less (place "b_analyzer.py") = .ok without ∧
        (registerModule {} m).value = (registerModule {} without).value := by
  intro root both less more
  let tree := pluginTree [("b_analyzer.py", both)]
  let a := place "a_analyzer.py"
  let b := place "b_analyzer.py"
  let c := place "c_analyzer.py"
  obtain ⟨hadded, hplugins, hmodule, hmembers⟩ := scan_undisturbed {}
  have hload : load tree b = both.pluginAt b :=
    load_of_program (by decide +kernel) (by decide +kernel) (by with_unfolding_all rfl)
  have hload_more : load more b = both.pluginAt b :=
    load_of_program (by decide +kernel) (by decide +kernel) (by with_unfolding_all rfl)
  have hload_less : load less b = (halfSpoiled [.text "a"]).pluginAt b :=
    load_of_program (by decide +kernel) (by decide +kernel) (by with_unfolding_all rfl)
  have hfound : tree.pluginFiles root = .ok [b] := by decide +kernel
  have hall : more.pluginFiles root = .ok [a, b, c] := by decide +kernel
  -- the two plugins that the larger tree has more
  have htreeClear : tree.Clear := clear_pluginTree (by decide +kernel)
  have hmoreClear : more.Clear := clear_pluginTree (by decide +kernel)
  obtain ⟨files, extra, hmore, _⟩ := hadded tree more root htreeClear hmoreClear
    (pluginTree_addsFiles [("b_analyzer.py", both)] [("a_analyzer.py", unloadable (.value "no")),
      ("c_analyzer.py", unlistable)])
    (searchable_pluginTree htreeClear) (searchable_pluginTree hmoreClear)
  cases hfound.symm.trans hmore.found
  obtain ⟨_, hfiles, _, _, hlength⟩ := hmore.order
  cases hall.symm.trans hfiles
  obtain ⟨_, hfiles, hmem⟩ := hmore.added
  cases hall.symm.trans hfiles
  have hunloadable : ∃ entry, Spoiled more a entry := by
    have hrun : load more a = (unloadable (.value "no")).pluginAt a :=
      load_of_program (by decide +kernel) (by decide +kernel) (by with_unfolding_all rfl)
    exact ⟨_, .unloadable (hrun.trans rfl) (by decide +kernel)⟩
  have hunlisted : ∃ entry, Spoiled more c entry := by
    have hrun : load more c = unlistable.pluginAt c :=
      load_of_program (by decide +kernel) (by decide +kernel) (by with_unfolding_all rfl)
    exact ⟨_, .unlisted (hrun.trans rfl) rfl rfl⟩
  obtain ⟨first, hfirst⟩ := hunloadable
  obtain ⟨last, hlast⟩ := hunlisted
  have hspoiled : ∀ p ∈ extra, Spoiled more p (if p = a then first else last) := by
    intro p hp
    have hcases : p = a ∨ p = b ∨ p = c := by simpa using (hmem p).mpr (.inr hp)
    rcases hcases with rfl | rfl | rfl
    · rw [if_pos rfl]
      exact hfirst
    · exact absurd (List.mem_singleton_self _) (hmore.apart b hp)
    · rw [if_neg (by decide)]
      exact hlast
  obtain ⟨hscan, _⟩ := hplugins tree more root [b] extra _ hmore hspoiled
  -- the member that the larger plugin has more
  obtain ⟨m, without, o, hm, hwithout, hmember, hunreadable⟩ := halfSpoiled_pluginAt b
  obtain ⟨failure, hfails⟩ := hunreadable (moduleSource m (some b.toString))
  have hmore_member : MoreMembers tree less root b m ("b", o) := by
    refine ⟨⟨[b], hfound, by decide +kernel, List.mem_singleton_self b, ?_⟩, hload.trans hm,
      without, hload_less.trans hwithout, hmember⟩
    exact List.forall_mem_singleton.mpr fun hne => absurd rfl hne
  obtain ⟨hscan_less, _⟩ := hmembers tree less root b m ("b", o) failure hmore_member hfails
  have hextra : extra.length = 2 := by
    simp only [List.length_cons, List.length_nil] at hlength
    omega
  obtain ⟨failure, hfails⟩ := hunreadable (moduleSource m none)
  have hregister := (hmodule m without none ("b", o) failure hmember hfails).1
  exact ⟨by rw [hscan, hscan_less, hextra], m, without, hload_more.trans hm,
    hload_less.trans hwithout, hregister⟩

/-- A plugin that interrupts the scan is not spoiled in this sense: a scan that meets it fails, also
if there is another plugin that is. -/
theorem scan_interrupted :
    let root : Path := { root := .slash, parts := ["an"] }
    let interrupting := unloadable (.of "KeyboardInterrupt" "stop")
    let tree := pluginTree [("a_analyzer.py", interrupting)]
    let more := pluginTree [("a_analyzer.py", interrupting),
      ("b_analyzer.py", unloadable (.value "no"))]
    MorePlugins tree more root [place "a_analyzer.py"] [place "b_analyzer.py"] ∧
      (∃ entry, Spoiled more (place "b_analyzer.py") entry) ∧
      (Attempt.failure? (scan more {} root).value.1).map (·.kind) = some "KeyboardInterrupt" := by
  intro root interrupting tree more
  let a := place "a_analyzer.py"
  let b := place "b_analyzer.py"
  have hload : load tree a = interrupting.pluginAt a :=
    load_of_program (by decide +kernel) (by decide +kernel) (by with_unfolding_all rfl)
  have hload_more : load more a = interrupting.pluginAt a :=
    load_of_program (by decide +kernel) (by decide +kernel) (by with_unfolding_all rfl)
  refine ⟨⟨by decide +kernel, ⟨[a, b], by decide +kernel, fun p => ?_⟩, by decide, by decide, ?_⟩,
    ?_, by decide +kernel⟩
  · simp only [List.mem_cons, List.not_mem_nil, or_false]
    rfl
  · exact List.forall_mem_singleton.mpr (hload_more.trans hload.symm)
  · have hrun : load more b = (unloadable (.value "no")).pluginAt b :=
      load_of_program (by decide +kernel) (by decide +kernel) (by with_unfolding_all rfl)
    exact ⟨_, .unloadable (hrun.trans rfl) (by decide +kernel)⟩

end Assay.Plugin.Registry
