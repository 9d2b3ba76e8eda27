import Assay.Proofs.LinkedTree
import Assay.Proofs.PathText
import Assay.Report.Sarif

/-! # Where the names of files lead

A report names a file by the way from the code root to it: up to what both have in common, and down
from there. Going this way from the root ends at the file again, so that different files have
different names.
-/

namespace Assay

/-! ## What two places have in common -/

namespace Path

/-- The longest list of names with which two lists begin. -/
structure IsCommonFront (common as bs : List String) : Prop where
  left : common <+: as
  right : common <+: bs
  longest : ∀ front, front <+: as → front <+: bs → front <+: common

/-- What is dropped in front of two lists is the most that they have in common. -/
theorem exists_commonFront (as bs : List String) :
    ∃ common, IsCommonFront common as bs ∧ as = common ++ (dropCommon as bs).1 ∧
      bs = common ++ (dropCommon as bs).2 := by
  fun_induction dropCommon as bs with
  | case1 as b bs ih =>
      obtain ⟨common, hcommon, has, hbs⟩ := ih
      refine ⟨b :: common, ⟨List.cons_prefix_cons.mpr ⟨rfl, hcommon.left⟩,
        List.cons_prefix_cons.mpr ⟨rfl, hcommon.right⟩, ?_⟩, by rw [List.cons_append, ← has],
        by rw [List.cons_append, ← hbs]⟩
      intro front hleft hright
      cases front with
      | nil => exact List.nil_prefix
      | cons c front =>
          obtain ⟨hc, hfront⟩ := List.cons_prefix_cons.mp hleft
          exact List.cons_prefix_cons.mpr ⟨hc, hcommon.longest front hfront
            (List.cons_prefix_cons.mp hright).2⟩
  | case2 a as b bs hne =>
      refine ⟨[], ⟨List.nil_prefix, List.nil_prefix, ?_⟩, rfl, rfl⟩
      intro front hleft hright
      cases front with
      | nil => exact List.nil_prefix
      | cons c front =>
          -- the first names are different
          obtain ⟨rfl, -⟩ := List.cons_prefix_cons.mp hleft
          exact absurd (List.cons_prefix_cons.mp hright).1 hne
  | case3 as bs hempty =>
      refine ⟨[], ⟨List.nil_prefix, List.nil_prefix, ?_⟩, rfl, rfl⟩
      intro front hleft hright
      cases front with
      | nil => exact List.nil_prefix
      | cons c front =>
          obtain ⟨as, rfl⟩ := hleft
          obtain ⟨bs, rfl⟩ := hright
          exact absurd rfl (hempty c _ c _ rfl)

/-- The way from one place to another goes up to what both have in common, and down from there. -/
theorem parts_relativeTo (target start : Path) :
    ∃ common, IsCommonFront common target.parts start.parts ∧
      (target.relativeTo start).parts =
        List.replicate (start.parts.length - common.length) ".." ++
          target.parts.drop common.length := by
  obtain ⟨common, hcommon, hdown, hup⟩ := exists_commonFront target.parts start.parts
  refine ⟨common, hcommon, ?_⟩
  rcases hsplit : dropCommon target.parts start.parts with ⟨down, up⟩
  rw [hsplit] at hdown hup
  simp only [relativeTo, hsplit]
  simp [hdown, hup]

/-! ## Following a name -/

theorem eq_of_parts {p q : Path} (hroot : p.root = q.root) (hparts : p.parts = q.parts) :
    p = q := by
  cases p
  cases q
  simp_all

/-- A path without `..`: each leads back to the place before the name in front of it. -/
def normal (p : Path) : Path := { p with parts := FileTree.lexical p.parts }

/-- A path from the root with names only. -/
structure IsPlace (p : Path) : Prop where
  root : p.root = .slash
  up : ".." ∉ p.parts

theorem climb_ups (place : List String) (n : Nat) :
    FileTree.climb place (List.replicate n "..") = place.take (place.length - n) := by
  induction n generalizing place with
  | zero => simp [FileTree.climb]
  | succ n ih =>
      have hstep : FileTree.climb place (List.replicate (n + 1) "..") =
          FileTree.climb place.dropLast (List.replicate n "..") := rfl
      rw [hstep, ih, List.dropLast_eq_take, List.take_take, List.length_take]
      congr 1
      omega

theorem climb_append (place front back : List String) :
    FileTree.climb place (front ++ back) = FileTree.climb (FileTree.climb place front) back :=
  List.foldl_append

/-- The way from one place to another leads there. -/
theorem climb_relativeTo {target start : Path} (htarget : ".." ∉ target.parts) :
    FileTree.climb start.parts (target.relativeTo start).parts = target.parts := by
  obtain ⟨common, hcommon, hparts⟩ := parts_relativeTo target start
  have hdown : ".." ∉ target.parts.drop common.length :=
    fun h => htarget (List.mem_of_mem_drop h)
  have hback : start.parts.take (start.parts.length - (start.parts.length - common.length)) =
      target.parts.take common.length := by
    rw [Nat.sub_sub_self hcommon.right.length_le, ← List.prefix_iff_eq_take.mp hcommon.right,
      ← List.prefix_iff_eq_take.mp hcommon.left]
  rw [hparts, climb_append, climb_ups, FileTree.climb_eq_append hdown, hback,
    List.take_append_drop]

/-- The name of a file in a report leads from the code root to it. -/
structure LeadsBack (root target : Path) (uri : String) : Prop where
  /-- Joined to the root it is the file. -/
  joined : (root.join (ofString uri)).normal = target
  /-- Only the root itself is a point. -/
  point_iff : uri = "." ↔ target = root
  /-- It goes up for files outside of the root only, -/
  up_iff : ".." ∈ (ofString uri).parts ↔ ¬ root.parts <+: target.parts
  /-- namely first, and for each name of the root behind those in common. -/
  ups : ∃ common down, IsCommonFront common target.parts root.parts ∧ ".." ∉ down ∧
    (ofString uri).parts = List.replicate (root.parts.length - common.length) ".." ++ down

theorem isName_relativeTo {target start : Path} (htarget : ∀ name ∈ target.parts, IsName name) :
    ∀ name ∈ (target.relativeTo start).parts, IsName name := by
  obtain ⟨common, -, hparts⟩ := parts_relativeTo target start
  intro name hname
  rw [hparts, List.mem_append] at hname
  rcases hname with hname | hname
  · rw [List.eq_of_mem_replicate hname]
    exact ⟨by decide, by decide, by decide⟩
  · exact htarget name (List.mem_of_mem_drop hname)

theorem leadsBack_relativeTo {root target : Path} (hroot : root.IsPlace) (htarget : target.IsPlace)
    (hnames : ∀ name ∈ target.parts, IsName name) :
    LeadsBack root target (target.relativeTo root).toString := by
  have hread : ofString (target.relativeTo root).toString = target.relativeTo root :=
    ofString_toString (isName_relativeTo hnames)
  have hclimb : FileTree.climb root.parts (target.relativeTo root).parts = target.parts :=
    climb_relativeTo htarget.up
  obtain ⟨common, hcommon, hparts⟩ := parts_relativeTo target root
  have hdown : ".." ∉ target.parts.drop common.length :=
    fun h => htarget.up (List.mem_of_mem_drop h)
  constructor
  case joined =>
    have hlexical : FileTree.lexical (root.parts ++ (target.relativeTo root).parts) =
        target.parts := by
      calc FileTree.lexical (root.parts ++ (target.relativeTo root).parts)
        _ = FileTree.climb (FileTree.climb [] root.parts) (target.relativeTo root).parts :=
            climb_append ..
        _ = FileTree.climb root.parts (target.relativeTo root).parts := by
            rw [FileTree.climb_eq_append hroot.up, List.nil_append]
        _ = target.parts := hclimb
    have hjoin : root.join (target.relativeTo root) =
        { root with parts := root.parts ++ (target.relativeTo root).parts } := rfl
    rw [hread, hjoin, normal, hlexical, hroot.root, ← htarget.root]
  case point_iff =>
    constructor
    · intro huri
      have hparts : (target.relativeTo root).parts = [] := by
        rw [← hread, huri]
        decide
      rw [hparts] at hclimb
      exact eq_of_parts (htarget.root.trans hroot.root.symm) hclimb.symm
    · rintro rfl
      -- a place has all of its names in common with itself
      have hall := hcommon.longest _ List.prefix_rfl List.prefix_rfl
      have hnone : (target.relativeTo target).parts = [] := by
        rw [hparts, Nat.sub_eq_zero_of_le hall.length_le, List.drop_of_length_le hall.length_le]
        rfl
      rw [toString, hnone]
      rfl
  case up_iff =>
    have hinside : root.parts <+: target.parts ↔ root.parts.length ≤ common.length := by
      constructor
      · exact fun h => (hcommon.longest _ h List.prefix_rfl).length_le
      · exact fun h => hcommon.right.eq_of_length_le h ▸ hcommon.left
    rw [hread, hparts, hinside]
    simp only [List.mem_append, List.mem_replicate, hdown, and_true, or_false,
      Nat.sub_ne_zero_iff_lt, Nat.not_le]
  case ups =>
    exact ⟨common, _, hcommon, hdown, by rw [hread, hparts]⟩

end Path

/-! ## Places of a tree -/

namespace FileTree

variable {π : Type} {t : FileTree π}

theorem isPlace_of_resolve {p q : Path} (h : t.resolve p = .ok q) : q.IsPlace :=
  ⟨(of_resolve h).1, (of_resolve h).2⟩

theorem mem_of_mem_climb {place rest : List String} {name : String}
    (h : name ∈ climb place rest) : name ∈ place ∨ name ∈ rest := by
  induction rest generalizing place with
  | nil => exact .inl h
  | cons next rest ih =>
      by_cases hnext : next = ".."
      · subst hnext
        exact (ih h).imp (fun hmem => (List.dropLast_sublist place).subset hmem)
          (List.mem_cons_of_mem _)
      · rw [climb_cons_of_ne hnext] at h
        have hmem := ih h
        rw [List.mem_append, List.mem_singleton] at hmem
        rw [List.mem_cons]
        tauto

/-- Without links a path can be resolved unless it has a null character. -/
theorem Plain.resolve_isOk_iff (h : t.Plain) {s : String} :
    (∃ q, t.resolve (Path.ofString s) = .ok q) ↔ '\x00' ∉ s.toList := by
  rw [← hasNul_ofString]
  cases hnul : hasNul (Path.ofString s) with
  | true => simp [resolve_of_hasNul hnul]
  | false => simp [h.resolve_eq hnul]

/-- What an absolute path resolves to has names of the path only. -/
theorem Plain.mem_of_resolve (h : t.Plain) {p q : Path} (hp : p.isAbsolute = true)
    (hq : t.resolve p = .ok q) {name : String} (hname : name ∈ q.parts) : name ∈ p.parts := by
  cases hnul : hasNul p with
  | true =>
      rw [resolve_of_hasNul hnul] at hq
      cases hq
  | false =>
      have habsolute : t.absolute p = p := if_pos hp
      rw [h.resolve_eq hnul, habsolute] at hq
      cases hq
      exact (mem_of_mem_climb hname).resolve_left List.not_mem_nil

end FileTree

namespace Report.Sarif

variable {π : Type} {tree : FileTree π}

/-- The code root is a place, if the working directory is one. -/
theorem isPlace_of_codeRoot {root : Option String} {place : Path}
    (hdirectory : tree.resolve tree.workingDirectory = .ok tree.workingDirectory)
    (h : codeRoot tree root = .ok place) : place.IsPlace := by
  unfold codeRoot at h
  split at h
  next =>
    cases h
    exact FileTree.isPlace_of_resolve hdirectory
  next =>
    split at h
    next =>
      cases h
      exact FileTree.isPlace_of_resolve hdirectory
    next => exact FileTree.isPlace_of_resolve h

theorem codeRoot_isOk_iff (hplain : tree.Plain) {root : Option String} :
    (∃ place, codeRoot tree root = .ok place) ↔ ∀ s ∈ root, '\x00' ∉ s.toList := by
  cases root with
  | none => simp [codeRoot]
  | some s =>
      by_cases hs : s = ""
      · simp [codeRoot, hs]
      · simpa [codeRoot, hs] using hplain.resolve_isOk_iff

/-- A file that is resolved is named by the way to it. -/
theorem artifactUri_of_resolve {root q : Path} {file : String}
    (hfile : (Path.ofString file).isAbsolute = true)
    (hq : tree.resolve (Path.ofString file) = .ok q) :
    artifactUri tree root file = .ok (q.relativeTo root).toString := by
  simp [artifactUri, hfile, hq]

/-- In a tree without links the names of files lead back to the files: every code root and file is
resolved whose text has no null character, the name of the file is the way from the root to it, and
no other file has this name. -/
theorem artifactUri_leads_back (tree : FileTree π) (hplain : tree.Plain)
    (hdirectory : tree.resolve tree.workingDirectory = .ok tree.workingDirectory)
    (root : Option String) (file : String) (hfile : (Path.ofString file).isAbsolute = true) :
    ((∃ place, codeRoot tree root = .ok place) ↔ ∀ s ∈ root, '\x00' ∉ s.toList) ∧
    ((∃ q, tree.resolve (Path.ofString file) = .ok q) ↔ '\x00' ∉ file.toList) ∧
    ∀ place q, codeRoot tree root = .ok place → tree.resolve (Path.ofString file) = .ok q →
      ∃ uri, artifactUri tree place file = .ok uri ∧ Path.LeadsBack place q uri ∧
        ∀ other r, (Path.ofString other).isAbsolute = true →
          tree.resolve (Path.ofString other) = .ok r →
          (artifactUri tree place other = .ok uri ↔ r = q) := by
  refine ⟨codeRoot_isOk_iff hplain, hplain.resolve_isOk_iff, fun place q hplace hq => ?_⟩
  have hroot := isPlace_of_codeRoot hdirectory hplace
  have hleads : ∀ other r, (Path.ofString other).isAbsolute = true →
      tree.resolve (Path.ofString other) = .ok r →
      Path.LeadsBack place r (r.relativeTo place).toString := by
    intro other r hother hr
    exact Path.leadsBack_relativeTo hroot (FileTree.isPlace_of_resolve hr) fun name hname =>
      Path.isName_of_mem_ofString (hplain.mem_of_resolve hother hr hname)
  refine ⟨_, artifactUri_of_resolve hfile hq, hleads file q hfile hq, fun other r hother hr => ?_⟩
  rw [artifactUri_of_resolve hother hr, Except.ok.injEq]
  constructor
  · intro hsame
    -- both are where the one name leads
    have hjoined := (hleads other r hother hr).joined
    rw [hsame] at hjoined
    exact hjoined.symm.trans (hleads file q hfile hq).joined
  · rintro rfl
    rfl

/-- A file beside the code root whose name begins like the root's. -/
theorem artifactUri_leads_back_beside :
    let tree : FileTree Unit := { workingDirectory := { root := .slash, parts := ["w"] } }
    let place : Path := { root := .slash, parts := ["a", "b"] }
    let file := "/a/./bc//x/../d.py"
    tree.Plain ∧ tree.resolve tree.workingDirectory = .ok tree.workingDirectory ∧
      (Path.ofString file).isAbsolute = true ∧ codeRoot tree (some "/a/b/") = .ok place ∧
      artifactUri tree place file = .ok "../bc/d.py" ∧
      Path.LeadsBack place { root := .slash, parts := ["a", "bc", "d.py"] } "../bc/d.py" := by
  intro tree place file
  have hplain : tree.Plain := .of_entries (List.forall_mem_nil _) (List.forall_mem_nil _)
  have hdirectory : tree.resolve tree.workingDirectory = .ok tree.workingDirectory := by
    decide +kernel
  have hfile : (Path.ofString file).isAbsolute = true := by decide +kernel
  have hplace : codeRoot tree (some "/a/b/") = .ok place := by decide +kernel
  have hresolved : tree.resolve (Path.ofString file) =
      .ok { root := .slash, parts := ["a", "bc", "d.py"] } := by decide +kernel
  have hname : artifactUri tree place file = .ok "../bc/d.py" := by decide +kernel
  obtain ⟨-, -, hleads⟩ := artifactUri_leads_back tree hplain hdirectory (some "/a/b/") file hfile
  obtain ⟨uri, huri, hback, -⟩ := hleads place _ hplace hresolved
  cases huri.symm.trans hname
  exact ⟨hplain, hdirectory, hfile, hplace, hname, hback⟩

end Report.Sarif

end Assay
