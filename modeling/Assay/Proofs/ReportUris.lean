import Assay.Proofs.ArtifactPaths
import Assay.Proofs.SeverityPolicy
import Assay.Proofs.UriText

/-! # Where the URIs of a report lead

The code root is escaped in a report, the names of files are not. A reader who decodes both finds
the root always, and a file exactly if the way to it has no escape: what is decoded is too short to
lead there otherwise.
-/

namespace Assay

/-! ## The names of resolved paths -/

namespace FileTree

variable {π : Type} {t : FileTree π}

/-- A trail whose links lead to places with names that paths can have. -/
def Trail.HasNames (seen : Trail) : Prop :=
  ∀ link known, (link, some known) ∈ seen → ∀ name ∈ known, Path.IsName name

theorem Trail.HasNames.cons {seen : Trail} {link : List String} {known : Option (List String)}
    (hseen : seen.HasNames) (hknown : ∀ place ∈ known, ∀ name ∈ place, Path.IsName name) :
    Trail.HasNames ((link, known) :: seen) := by
  intro other place hmem
  rcases List.mem_cons.mp hmem with heq | hmem
  · cases heq
    exact hknown place rfl
  · exact hseen other place hmem

/-- Names come from the path itself and from the links on the way. -/
theorem isName_of_resolveNames {fuel : Nat} {seen : Trail} {place rest : List String}
    (hseen : seen.HasNames) (hplace : ∀ name ∈ place, Path.IsName name)
    (hrest : ∀ name ∈ rest, Path.IsName name) :
    (∀ name ∈ (t.resolveNames fuel seen place rest).1, Path.IsName name) ∧
      Trail.HasNames (t.resolveNames fuel seen place rest).2.2 := by
  have hlink : ∀ target, ∀ name ∈ (Path.ofString target).parts, Path.IsName name :=
    fun _ _ => Path.isName_of_mem_ofString
  -- a link is followed from its place or from the root
  have hstart : ∀ (p : Path) (place : List String), (∀ name ∈ place, Path.IsName name) →
      ∀ name ∈ if p.isAbsolute then [] else place, Path.IsName name := by
    intro p place hplace
    split
    · exact List.forall_mem_nil _
    · exact hplace
  fun_induction resolveNames t fuel seen place rest with
  | case1 => exact ⟨List.forall_mem_append.mpr ⟨hplace, hrest⟩, hseen⟩
  | case2 => exact ⟨hplace, hseen⟩
  | case3 fuel seen place name rest _ ih =>
      exact ih hseen (fun n hn => hplace n ((List.dropLast_sublist place).subset hn))
        (List.forall_mem_cons.mp hrest).2
  | case4 fuel seen place name rest _ next target _ link known hfind ih =>
      -- where the link leads is known
      exact ih hseen (hseen link known (List.mem_of_find?_eq_some hfind))
        (List.forall_mem_cons.mp hrest).2
  | case5 fuel seen place name rest =>
      refine ⟨?_, hseen⟩
      rw [List.append_assoc]
      exact List.forall_mem_append.mpr ⟨hplace, hrest⟩
  | case6 fuel seen place name rest _ next target _ _ p found more hfound ihlink ihrest =>
      obtain ⟨hnames, hmore⟩ := ihlink (hseen.cons (by simp)) (hstart p place hplace) (hlink target)
      rw [hfound] at hnames hmore
      exact ihrest (hmore.cons (by simpa using hnames)) hnames (List.forall_mem_cons.mp hrest).2
  | case7 fuel seen place name rest _ next target _ _ p found ok more hfound _ ihlink =>
      obtain ⟨hnames, hmore⟩ := ihlink (hseen.cons (by simp)) (hstart p place hplace) (hlink target)
      rw [hfound] at hnames hmore
      exact ⟨List.forall_mem_append.mpr ⟨hnames, (List.forall_mem_cons.mp hrest).2⟩, hmore⟩
  | case8 fuel seen place name rest _ next _ ih =>
      rw [List.forall_mem_cons] at hrest
      refine ih hseen ?_ hrest.2
      exact List.forall_mem_append.mpr ⟨hplace, List.forall_mem_singleton.mpr hrest.1⟩

/-- What an absolute path resolves to has names that paths can have. -/
theorem isName_of_resolve {s : String} {q : Path} (hs : (Path.ofString s).isAbsolute = true)
    (h : t.resolve (.ofString s) = .ok q) : ∀ name ∈ q.parts, Path.IsName name := by
  have habsolute : t.absolute (.ofString s) = .ofString s := if_pos hs
  obtain ⟨fuel, rfl⟩ := exists_of_resolve h
  rw [habsolute]
  intro name hname
  have hfound := (mem_of_mem_climb hname).resolve_left List.not_mem_nil
  refine (isName_of_resolveNames ?_ ?_ ?_).1 name hfound
  · exact fun _ _ hmem => absurd hmem List.not_mem_nil
  · exact List.forall_mem_nil _
  · exact fun _ => Path.isName_of_mem_ofString

end FileTree

/-! ## Lengths of ways -/

namespace Path

/-- The characters of names, with a slash for each. -/
def size : List String → Nat
  | [] => 0
  | name :: parts => name.length + 1 + size parts

theorem size_append (front back : List String) :
    size (front ++ back) = size front + size back := by
  induction front with
  | nil => exact (Nat.zero_add _).symm
  | cons name front ih => simp only [List.cons_append, size, ih, Nat.add_assoc]

theorem size_replicate_up (n : Nat) : size (List.replicate n "..") = 3 * n := by
  induction n with
  | zero => rfl
  | succ n ih =>
      have hup : "..".length = 2 := by decide
      rw [List.replicate_succ, size, ih, hup]
      omega

theorem size_le_of_sublist {part all : List String} (h : part.Sublist all) :
    size part ≤ size all := by
  induction h with
  | slnil => exact Nat.le_refl 0
  | cons name _ ih =>
      rw [size]
      omega
  | cons_cons name _ ih =>
      rw [size, size]
      omega

/-- Going along names keeps the front of a place, and pays for what it adds and takes away. -/
theorem exists_climb_eq (place rest : List String) :
    ∃ kept ≤ place.length, ∃ added, FileTree.climb place rest = place.take kept ++ added ∧
      size added + 3 * (place.length - kept) ≤ size rest := by
  induction rest generalizing place with
  | nil => exact ⟨place.length, Nat.le_refl _, [], by simp [FileTree.climb], by simp⟩
  | cons name rest ih =>
      by_cases hname : name = ".."
      · obtain ⟨kept, hkept, added, hclimb, hsize⟩ := ih place.dropLast
        rw [List.length_dropLast] at hkept hsize
        have hfront : place.dropLast.take kept = place.take kept := by
          rw [List.dropLast_eq_take, List.take_take, Nat.min_eq_left hkept]
        have hup : name.length = 2 := hname ▸ by decide
        refine ⟨kept, by omega, added, ?_, by rw [size]; omega⟩
        rw [← hfront, ← hclimb, hname]
        rfl
      · obtain ⟨kept, hkept, added, hclimb, hsize⟩ := ih (place ++ [name])
        rw [List.length_append, List.length_singleton] at hkept hsize
        rw [FileTree.climb_cons_of_ne hname, hclimb]
        by_cases hall : kept ≤ place.length
        · refine ⟨kept, hall, added, by rw [List.take_append_of_le_length hall], ?_⟩
          rw [size]
          omega
        · -- the new name is kept
          obtain rfl : kept = place.length + 1 := by omega
          refine ⟨place.length, Nat.le_refl _, name :: added, ?_, ?_⟩
          · simp [List.take_of_length_le]
          · rw [size, size]
            omega

/-- Whatever leads from one place to another is as long as the way between them at least. -/
theorem size_relativeTo_le {root target way : Path} (hroot : root.IsPlace)
    (hjoin : (root.join way).normal = target)
    (habsolute : way.isAbsolute = true → (target.relativeTo root).parts.head? ≠ some "..") :
    size (target.relativeTo root).parts ≤ size way.parts := by
  obtain ⟨common, hcommon, hparts⟩ := parts_relativeTo target root
  have hnormal := congrArg parts hjoin
  rw [hparts, size_append, size_replicate_up]
  cases hway : way.isAbsolute with
  | false =>
      have hclimb : FileTree.climb root.parts way.parts = target.parts := by
        rw [← hnormal, join, if_neg (by simp [hway])]
        change _ = FileTree.climb [] (root.parts ++ way.parts)
        rw [climb_append, FileTree.climb_eq_append hroot.up, List.nil_append]
      obtain ⟨kept, hkept, added, hadded, hsize⟩ := exists_climb_eq root.parts way.parts
      have htarget : target.parts = root.parts.take kept ++ added := hclimb.symm.trans hadded
      -- what is kept of the root is in common
      have hfront : kept ≤ common.length := by
        have hlength := (hcommon.longest _ (htarget ▸ List.prefix_append ..)
          (List.take_prefix kept root.parts)).length_le
        rwa [List.length_take, Nat.min_eq_left hkept] at hlength
      have hdown : target.parts.drop common.length = added.drop (common.length - kept) := by
        rw [htarget, List.drop_append, List.length_take, Nat.min_eq_left hkept,
          List.drop_of_length_le (by rw [List.length_take]; omega), List.nil_append]
      have hdrop := size_le_of_sublist (List.drop_sublist (common.length - kept) added)
      rw [hdown]
      omega
  | true =>
      have hups : root.parts.length - common.length = 0 := by
        by_contra hne
        obtain ⟨n, hn⟩ := Nat.exists_eq_succ_of_ne_zero hne
        refine habsolute hway ?_
        rw [hparts, hn]
        rfl
      have hclimb : FileTree.climb [] way.parts = target.parts := by
        rw [← hnormal, join, if_pos hway]
        rfl
      obtain ⟨kept, -, added, hadded, hsize⟩ := exists_climb_eq [] way.parts
      have hdrop := size_le_of_sublist (List.drop_sublist common.length target.parts)
      rw [← hclimb, hadded, List.take_nil, List.nil_append] at hdrop ⊢
      omega

/-! ## Ways as texts -/

/-- Cutting a text at slashes takes a slash away for each part but one. -/
theorem size_cut (cs : List Char) :
    size ((Text.cut '/' cs).map String.ofList) = cs.length + 1 := by
  induction cs with
  | nil => rfl
  | cons c cs ih =>
      unfold Text.cut
      split
      · rw [List.map_cons, size, ih, List.length_cons, String.length_ofList, List.length_nil]
        omega
      · split
        next part parts hcut =>
          rw [hcut] at ih
          simp only [List.map_cons, size, String.length_ofList, List.length_cons] at ih ⊢
          omega
        next hcut => exact absurd hcut (Text.cut_ne_nil '/' cs)

theorem size_ofString_le (s : String) : size (ofString s).parts ≤ s.toList.length + 1 :=
  size_cut s.toList ▸ size_le_of_sublist List.filter_sublist

theorem length_toString {p : Path} (hroot : p.root = .relative) (hparts : p.parts ≠ []) :
    p.toString.toList.length + 1 = size p.parts := by
  rw [toList_toString (by simp [hparts]), hroot]
  simp only [PathRoot.text, String.toList_empty, List.nil_append]
  generalize p.parts = parts at *
  induction parts with
  | nil => exact absurd rfl hparts
  | cons name parts ih =>
      cases parts with
      | nil => simp [size, String.length_toList]
      | cons next parts =>
          have hrest := ih (List.cons_ne_nil next parts)
          simp only [List.map_cons, List.intercalate_cons_cons, List.length_append, size,
            List.length_singleton, String.length_toList] at hrest ⊢
          omega

theorem head?_toString {p : Path} (hroot : p.root = .relative)
    (hup : p.parts.head? = some "..") : p.toString.toList.head? = some '.' := by
  obtain ⟨rest, hrest⟩ := List.head?_eq_some_iff.mp hup
  rw [toList_toString (by simp [hrest]), hroot, hrest, List.map_cons]
  cases rest <;> simp [PathRoot.text, List.intercalate_cons_cons]

theorem head?_of_isAbsolute {s : String} (h : (ofString s).isAbsolute = true) :
    s.toList.head? = some '/' := by
  cases hs : s.toList with
  | nil => simp [ofString, isAbsolute, rootOf, hs] at h
  | cons c cs =>
      by_cases hc : c = '/'
      · rw [hc]
        rfl
      · simp [ofString, isAbsolute, rootOf, hs, hc] at h

/-- A reader who decodes the way to a file gets there exactly if it has no escape. -/
theorem reached_iff {root target : Path} (hroot : root.IsPlace) (htarget : target.IsPlace)
    (hnames : ∀ name ∈ target.parts, IsName name) :
    (∃ way, Uri.decode? (target.relativeTo root).toString = some way ∧
      (root.join (ofString way)).normal = target) ↔
    ¬ Uri.HasEscape (target.relativeTo root).toString.toList := by
  have hrelative : (target.relativeTo root).root = .relative := rfl
  constructor
  · rintro ⟨way, hdecode, hjoin⟩ hescape
    have hparts : (target.relativeTo root).parts ≠ [] := by
      -- a point is no escape
      intro hnil
      have hpoint : (target.relativeTo root).toString = "." := by
        rw [toString, hrelative, hnil]
        rfl
      rw [hpoint] at hescape
      exact Uri.decode?_self_iff.mp (by decide) hescape
    have habsolute : (ofString way).isAbsolute = true →
        (target.relativeTo root).parts.head? ≠ some ".." := by
      intro hway hup
      have hpoint := Uri.head?_decode? (head?_toString hrelative hup) hdecode
      rw [head?_of_isAbsolute hway] at hpoint
      cases hpoint
    -- what was decoded is shorter than the way
    have hshort := Uri.length_decode?_lt hescape hdecode
    have hlength := length_toString hrelative hparts
    have hsize := size_ofString_le way
    have hleast := size_relativeTo_le hroot hjoin habsolute
    omega
  · intro h
    exact ⟨_, Uri.decode?_of_not_hasEscape h, (leadsBack_relativeTo hroot htarget hnames).joined⟩

end Path

namespace Report.Sarif

variable {π : Type} {tree : FileTree π}

/-! ## Reading a report -/

/-- The items of a list; anything else is one item. -/
def itemsOf : Value → List Value
  | .list items => items
  | v => [v]

/-- The values that keys lead to, through all items of lists on the way. -/
def valuesAt : List String → Value → List Value
  | [], v => [v]
  | key :: keys, v =>
      (itemsOf v).flatMap fun item => (entryOf? key item).elim [] (valuesAt keys)

/-- The keys of the URI of the code root. -/
def baseKeys : List String := ["runs", "originalUriBaseIds", rootName, "uri"]

/-- The keys of the URIs of files with messages. -/
def locationKeys : List String :=
  ["runs", "results", "locations", "physicalLocation", "artifactLocation", "uri"]

/-- The keys of the URIs of files with fixes. -/
def fixKeys : List String :=
  ["runs", "results", "fixes", "artifactChanges", "artifactLocation", "uri"]

theorem itemsOf_mappingOf (fields : List (String × Value)) :
    itemsOf (mappingOf fields) = [mappingOf fields] := rfl

theorem itemsOf_list (items : List Value) : itemsOf (.list items) = items := rfl

theorem Log.valuesAt_base (l : Log) :
    valuesAt baseKeys l.toValue = [.text (l.root.toUri ++ "/")] := by
  simp [baseKeys, valuesAt, Log.toValue, entryOf?_mappingOf, itemsOf_mappingOf, itemsOf_list,
    rootName]

/-- Results are searched one by one. -/
theorem Log.valuesAt_results (key : String) (keys : List String) (l : Log) :
    valuesAt ("runs" :: "results" :: key :: keys) l.toValue =
      l.results.flatMap fun r => (entryOf? key r.toValue).elim [] (valuesAt keys) := by
  simp [valuesAt, Log.toValue, entryOf?_mappingOf, itemsOf_mappingOf, itemsOf_list,
    List.flatMap_map]

theorem Log.valuesAt_location (l : Log) :
    valuesAt locationKeys l.toValue = l.results.map fun r => .text r.location.uri := by
  have hentry : ∀ r : Result,
      entryOf? "locations" r.toValue = some (.list [r.location.toValue]) := by
    intro r
    simp [Result.toValue, entryOf?_mappingOf]
  simp [locationKeys, Log.valuesAt_results, hentry, valuesAt, Location.toValue, artifactValue,
    entryOf?_mappingOf, itemsOf_mappingOf, itemsOf_list, ← List.map_eq_flatMap]

theorem Log.valuesAt_fix (l : Log) :
    valuesAt fixKeys l.toValue =
      l.results.flatMap fun r => r.fixes.map fun f => .text f.location.uri := by
  rw [fixKeys, Log.valuesAt_results]
  refine List.flatMap_congr fun r _ => ?_
  rw [entryOf?_fixes]
  cases hfixes : r.fixes with
  | nil => rfl
  | cons f fixes =>
      simp [valuesAt, Replacement.toValue, artifactValue, entryOf?_mappingOf, itemsOf_mappingOf,
        itemsOf_list, List.flatMap_map, ← List.map_eq_flatMap]

/-! ## The files of messages -/

/-- Results describe the messages, in whatever order they were sorted. -/
theorem Log.describes_of_ok {root : Option String} {messages : List AnalyzerMessage} {log : Log}
    (h : Log.ofMessages tree root messages = .ok log) :
    codeRoot tree root = .ok log.root ∧ ∃ sorted : List AnalyzerMessage, sorted.Perm messages ∧
      List.Forall₂ (fun m r => r.Describes tree log.root m) sorted log.results := by
  obtain ⟨place, hplace, h⟩ := Attempt.of_bind_eq_ok h
  obtain ⟨sorted, hsorted, h⟩ := Attempt.of_bind_eq_ok h
  obtain ⟨⟨rules, results⟩, hcollect, h⟩ := Attempt.of_bind_eq_ok h
  cases h
  exact ⟨hplace, sorted, sortMessages_perm hsorted, collect_describes hcollect⟩

/-- What a reader makes of the URI of a file that was resolved. -/
structure UriLeads (place q : Path) (uri : String) : Prop where
  /-- It is the way from the code root to the file as it stands. -/
  written : uri = (q.relativeTo place).toString
  /-- It says this way if there is no escape in it, -/
  decoded : Uri.decode? uri = some (q.relativeTo place).toString ↔ ¬ Uri.HasEscape uri.toList
  /-- and only then it leads to the file. -/
  reached : (∃ way, Uri.decode? uri = some way ∧ (place.join (.ofString way)).normal = q) ↔
    ¬ Uri.HasEscape uri.toList

/-- Whether a value is the URI of a file. A file that cannot be resolved is named by its path, which
is escaped. -/
def NamesFile (tree : FileTree π) (place : Path) (file : String) (v : Value) : Prop :=
  ∃ uri, v = .text uri ∧ ((Path.ofString file).isAbsolute = true →
    (∀ q, tree.resolve (.ofString file) = .ok q → UriLeads place q uri) ∧
    ∀ f, tree.resolve (.ofString file) = .error f →
      Uri.decode? uri = some ("file://" ++ (Path.ofString file).toString))

theorem namesFile_of_ok {place : Path} {file uri : String} (hplace : place.IsPlace)
    (h : artifactUri tree place file = .ok uri) : NamesFile tree place file (.text uri) := by
  refine ⟨uri, rfl, fun hfile => ⟨fun q hresolve => ?_, fun f hresolve => ?_⟩⟩
  · rw [artifactUri_of_resolve hfile hresolve] at h
    cases h
    exact ⟨rfl, Uri.decode?_self_iff, Path.reached_iff hplace (FileTree.isPlace_of_resolve hresolve)
      (FileTree.isName_of_resolve hfile hresolve)⟩
  · simp only [artifactUri, hfile, hresolve, Bool.not_true, Bool.false_eq_true, if_false] at h
    split at h
    next =>
      cases h
      simpa using Uri.decode?_toUri_append (.ofString file) (s := "") Uri.not_hasEscape_nil
    next => cases h

theorem names_of_describes {place : Path} (hplace : place.IsPlace) {m : AnalyzerMessage}
    {r : Result} (h : r.Describes tree place m) :
    NamesFile tree place m.message.range.file (.text r.location.uri) ∧
      List.Forall₂ (NamesFile tree place) (m.message.fixes.map fun f => f.range.file)
        (r.fixes.map fun f => .text f.location.uri) := by
  refine ⟨namesFile_of_ok hplace (locate_eq_ok_iff.mp h.location).1, ?_⟩
  rw [List.forall₂_map_left_iff, List.forall₂_map_right_iff]
  exact h.fixes.imp fun f c hc => namesFile_of_ok hplace (locate_eq_ok_iff.mp hc.1).1

/-- What a reader of a report decodes. The code root is found always; a file that a message or a fix
is about is found exactly if the way to it has no escape. -/
theorem Log.ofMessages_uris (tree : FileTree π)
    (hdirectory : tree.resolve tree.workingDirectory = .ok tree.workingDirectory)
    (root : Option String) (messages : List AnalyzerMessage) (log : Log)
    (hlog : Log.ofMessages tree root messages = .ok log) :
    (codeRoot tree root = .ok log.root ∧ ∃ base, valuesAt baseKeys log.toValue = [.text base] ∧
      Uri.decode? base = some ("file://" ++ log.root.toString ++ "/")) ∧
    ∃ sorted : List AnalyzerMessage, sorted.Perm messages ∧
      List.Forall₂ (NamesFile tree log.root) (sorted.map fun m => m.message.range.file)
        (valuesAt locationKeys log.toValue) ∧
      List.Forall₂ (NamesFile tree log.root)
        (sorted.flatMap fun m => m.message.fixes.map fun f => f.range.file)
        (valuesAt fixKeys log.toValue) := by
  obtain ⟨hroot, sorted, hperm, hdescribes⟩ := Log.describes_of_ok hlog
  have hplace := isPlace_of_codeRoot hdirectory hroot
  have hslash : ¬ Uri.HasEscape "/".toList := Uri.decode?_self_iff.mp (by decide)
  have hbase := Uri.decode?_toUri_append log.root hslash
  refine ⟨⟨hroot, _, log.valuesAt_base, hbase⟩, sorted, hperm, ?_, ?_⟩
  · rw [log.valuesAt_location, List.forall₂_map_left_iff, List.forall₂_map_right_iff]
    exact hdescribes.imp fun m r h => (names_of_describes hplace h).1
  · rw [log.valuesAt_fix]
    exact List.rel_flatMap hdescribes fun m r h => (names_of_describes hplace h).2

/-- The names of a code root and of a file beneath it have escapes: the root is found, the file is
not. -/
theorem Log.ofMessages_uris_escape :
    let tree : FileTree Unit := {}
    let place : Path := ⟨.slash, ["r%41"]⟩
    let remark : AnalyzerMessage :=
      { message := { type := .text "t", text := .text "m", code := .text "C1", severity := .error
                     range := ⟨"/r%41/b%41.py", 1, 0, 1, 1⟩ }
        name := .text "A" }
    tree.resolve tree.workingDirectory = .ok tree.workingDirectory ∧
      ∃ log base, Log.ofMessages tree (some "/r%41") [remark] = .ok log ∧
        valuesAt baseKeys log.toValue = [.text base] ∧
        Uri.decode? base = some "file:///r%41/" ∧
        valuesAt locationKeys log.toValue = [.text "b%41.py"] ∧
        Uri.decode? "b%41.py" = some "bA.py" ∧
        UriLeads place (place.child "b%41.py") "b%41.py" := by
  intro tree place remark
  have hdirectory : tree.resolve tree.workingDirectory = .ok tree.workingDirectory := by
    decide +kernel
  have hplace : codeRoot tree (some "/r%41") = .ok place := by decide +kernel
  have hresolve : tree.resolve (.ofString "/r%41/b%41.py") = .ok (place.child "b%41.py") := by
    decide +kernel
  have huri : artifactUri tree place "/r%41/b%41.py" = .ok "b%41.py" := by decide +kernel
  have hnamed : ∀ m ∈ [remark], m.IsNamed :=
    List.forall_mem_singleton.mpr ⟨⟨_, rfl⟩, _, rfl⟩
  obtain ⟨log, hlog⟩ := (Log.ofMessages_isOk_iff hnamed).mpr
    ⟨place, hplace, List.forall_mem_singleton.mpr (List.forall_mem_singleton.mpr ⟨_, huri⟩)⟩
  obtain ⟨⟨hroot, base, hbase, hdecode⟩, sorted, hperm, hlocations, -⟩ :=
    Log.ofMessages_uris tree hdirectory (some "/r%41") [remark] log hlog
  have hsame : place = log.root := Except.ok.inj (hplace.symm.trans hroot)
  rw [← hsame] at hdecode hlocations
  rw [List.perm_singleton.mp hperm] at hlocations
  obtain ⟨_, _, ⟨uri, rfl, hnames⟩, hrest, hvalues⟩ := List.forall₂_cons_left_iff.mp hlocations
  cases hrest
  have hleads := (hnames (by decide +kernel)).1 _ hresolve
  have hwritten : uri = "b%41.py" := hleads.written.trans (by decide +kernel)
  rw [hwritten] at hleads hvalues
  exact ⟨hdirectory, log, base, hlog, hbase, hdecode, hvalues, by decide +kernel, hleads⟩

end Report.Sarif

end Assay
