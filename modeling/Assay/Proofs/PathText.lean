import Assay.Proofs.PlainTree

/-! # Paths as texts

The names of a path that is read from a text are neither empty nor single points, and no slash is
in them. A path with such names is the same when it is written and read again. Reading loses no
character that is no slash and no point, so a text with a character that no path may have stays
refused.
-/

namespace Assay

namespace Text

variable {separator : Char} {cs part : List Char}

theorem cut_ne_nil (separator : Char) (cs : List Char) : cut separator cs ≠ [] := by
  cases cs with
  | nil => simp [cut]
  | cons c cs =>
      unfold cut
      split
      · simp
      · split <;> simp

theorem not_mem_of_mem_cut (h : part ∈ cut separator cs) : separator ∉ part := by
  induction cs generalizing part with
  | nil =>
      rw [List.mem_singleton.mp h]
      exact List.not_mem_nil
  | cons c cs ih =>
      unfold cut at h
      split at h
      next =>
        rcases List.mem_cons.mp h with rfl | h
        · exact List.not_mem_nil
        · exact ih h
      next hc =>
        split at h
        next front parts hcut =>
          rcases List.mem_cons.mp h with rfl | h
          · have hfront := ih (hcut ▸ List.mem_cons_self)
            simp [hfront, Ne.symm hc]
          · exact ih (hcut ▸ List.mem_cons_of_mem front h)
        next hcut => exact absurd hcut (cut_ne_nil separator cs)

/-- Cutting loses nothing but the separator. -/
theorem mem_cut_iff {c : Char} (hc : c ≠ separator) :
    (∃ part ∈ cut separator cs, c ∈ part) ↔ c ∈ cs := by
  induction cs with
  | nil => simp [cut]
  | cons first cs ih =>
      rw [List.mem_cons, ← ih, cut]
      split
      next hfirst => simp [hfirst, hc]
      next =>
        split
        next hcut => simp [hcut, or_assoc]
        next hcut => exact absurd hcut (cut_ne_nil separator cs)

theorem cut_of_not_mem (h : separator ∉ cs) : cut separator cs = [cs] := by
  induction cs with
  | nil => rfl
  | cons c cs ih =>
      rw [List.mem_cons, not_or] at h
      simp [cut, Ne.symm h.1, ih h.2]

theorem cut_append_cons (h : separator ∉ part) (cs : List Char) :
    cut separator (part ++ separator :: cs) = part :: cut separator cs := by
  induction part with
  | nil => simp [cut]
  | cons c part ih =>
      rw [List.mem_cons, not_or] at h
      simp [cut, Ne.symm h.1, ih h.2]

/-- Parts that are joined are cut apart again. -/
theorem cut_intercalate {parts : List (List Char)} (hne : parts ≠ [])
    (h : ∀ part ∈ parts, separator ∉ part) :
    cut separator ([separator].intercalate parts) = parts := by
  induction parts with
  | nil => exact absurd rfl hne
  | cons part rest ih =>
      rw [List.forall_mem_cons] at h
      cases rest with
      | nil => simpa using cut_of_not_mem h.1
      | cons next rest =>
          have hrest := ih (List.cons_ne_nil next rest) h.2
          rw [List.intercalate_cons_cons, List.append_assoc, List.singleton_append,
            cut_append_cons h.1, hrest]

end Text

namespace Path

/-- A name that a path can have: it says something, and it is one name only. -/
structure IsName (name : String) : Prop where
  ne_empty : name ≠ ""
  ne_point : name ≠ "."
  slash : '/' ∉ name.toList

theorem isName_of_mem_ofString {s name : String} (h : name ∈ (ofString s).parts) : IsName name := by
  obtain ⟨hcut, hname⟩ := List.mem_filter.mp h
  obtain ⟨part, hpart, rfl⟩ := List.mem_map.mp hcut
  simp only [Bool.and_eq_true, bne_iff_ne] at hname
  exact ⟨hname.1, hname.2, by simpa using Text.not_mem_of_mem_cut hpart⟩

/-- The text of a root is read back if no slash follows. -/
theorem rootOf_append (root : PathRoot) {cs : List Char} (h : cs.head? ≠ some '/') :
    rootOf (root.text.toList ++ cs) = root := by
  have hnone : cs.takeWhile (· = '/') = [] := by
    cases cs with
    | nil => rfl
    | cons c cs =>
        have hc : c ≠ '/' := by simpa using h
        simp [hc]
  cases root <;> simp [rootOf, PathRoot.text, hnone]

/-- The names behind a root are read back. -/
theorem names_append (root : PathRoot) {parts : List String} (h : ∀ name ∈ parts, IsName name) :
    ((Text.cut '/' (root.text.toList ++ ['/'].intercalate (parts.map String.toList))).map
      String.ofList).filter (fun part => part != "" && part != ".") = parts := by
  have hrest : ((Text.cut '/' (['/'].intercalate (parts.map String.toList))).map
      String.ofList).filter (fun part => part != "" && part != ".") = parts := by
    cases parts with
    | nil => rfl
    | cons name parts =>
        rw [Text.cut_intercalate (by simp) (List.forall_mem_map.mpr fun part hpart =>
          (h part hpart).slash)]
        simp only [List.map_map, Function.comp_def, String.ofList_toList, List.map_id']
        refine List.filter_eq_self.mpr fun part hpart => ?_
        simp [(h part hpart).ne_empty, (h part hpart).ne_point]
  cases root with
  | relative => exact hrest
  | slash => simpa [PathRoot.text, Text.cut] using hrest
  | doubleSlash => simpa [PathRoot.text, Text.cut] using hrest

theorem toList_toString {p : Path} (h : ¬ (p.root = .relative ∧ p.parts = [])) :
    p.toString.toList = p.root.text.toList ++ ['/'].intercalate (p.parts.map String.toList) := by
  have hfull : (p.root = .relative && p.parts.isEmpty) = false := by
    simpa using h
  simp [toString, hfull]

/-- A path that is written and read again is the same. -/
theorem ofString_toString {p : Path} (h : ∀ name ∈ p.parts, IsName name) :
    ofString p.toString = p := by
  obtain ⟨root, parts⟩ := p
  by_cases hempty : root = .relative ∧ parts = []
  · obtain ⟨rfl, rfl⟩ := hempty
    decide
  · have htext := toList_toString (p := ⟨root, parts⟩) hempty
    have hhead : (['/'].intercalate (parts.map String.toList)).head? ≠ some '/' := by
      cases parts with
      | nil => simp
      | cons name parts =>
          have hname := h name List.mem_cons_self
          obtain ⟨c, cs, hcs⟩ := List.exists_cons_of_ne_nil
            (fun hnil => hname.ne_empty (String.toList_eq_nil_iff.mp hnil))
          have hc : c ≠ '/' := by
            rintro rfl
            exact hname.slash (hcs ▸ List.mem_cons_self)
          cases parts <;> simp [hcs, hc, List.intercalate_cons_cons]
    simp only [ofString, htext, rootOf_append root hhead, names_append root h]

end Path

/-- A path can be there if its text has no null character. -/
theorem FileTree.hasNul_ofString {s : String} :
    hasNul (Path.ofString s) = true ↔ '\x00' ∈ s.toList := by
  have hslash : '\x00' ≠ '/' := by decide
  rw [← Text.mem_cut_iff hslash, hasNul, List.any_eq_true]
  simp only [Path.ofString, List.mem_filter, List.mem_map, List.contains_iff_mem]
  constructor
  · rintro ⟨_, ⟨⟨part, hpart, rfl⟩, -⟩, hnul⟩
    exact ⟨part, hpart, by simpa using hnul⟩
  · rintro ⟨part, hpart, hnul⟩
    refine ⟨String.ofList part, ⟨⟨part, hpart, rfl⟩, ?_⟩, by simpa using hnul⟩
    -- a part with a null character is neither empty nor a point
    have hne : ∀ text : String, '\x00' ∉ text.toList → String.ofList part ≠ text := by
      rintro _ htext rfl
      exact htext (by simpa using hnul)
    rw [Bool.and_eq_true, bne_iff_ne, bne_iff_ne]
    exact ⟨hne "" (by decide), hne "." (by decide)⟩

end Assay
