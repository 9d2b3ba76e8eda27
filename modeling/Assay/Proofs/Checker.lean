import Assay.Check.Project

/-! # What a checker remembers

A checker answers from its memory only what checking anew would find, whatever it was asked before.
So the results of a project are told by the file tree alone, file by file.
-/

namespace Assay.Check

/-! ## Phases -/

theorem parseFile_file (file source : String) : (parseFile file source).file = file := by
  unfold parseFile
  split <;> rfl

/-- What is collected of a parsed file is under its name, and collecting it logs nothing. -/
theorem checkFile_of_some {p : ParseResults} {check : CheckResults}
    (h : (checkFile p).value = some check) : check.file = p.file ∧ (checkFile p).log = [] := by
  unfold checkFile at h ⊢
  split at h
  next => cases h
  next tree htree =>
    split at h
    next => cases h
    next scopes hscopes =>
      cases h
      exact ⟨rfl, rfl⟩

/-- A checked file belongs to the text and the name that it was checked with. -/
structure CheckedFile.Of (file source : String) (checked : CheckedFile) : Prop where
  file_eq : checked.file = file
  source_eq : checked.source = source
  parse_eq : checked.parse = parseFile file source
  check_file : checked.check.file = file
  tree_eq : declarationTree (parseFile file source) = some checked.tree

/-- A file that goes through all phases is not mentioned in the log. -/
theorem checkAll_of_some {file source : String} {checked : CheckedFile}
    (h : (checkAll file source).value = some checked) :
    checked.Of file source ∧ (checkAll file source).log = [] := by
  have hname := parseFile_file file source
  unfold checkAll at h ⊢
  -- one phase after the other: each one that fails leaves nothing behind
  cases herrors : (parseFile file source).hadErrors with
  | true => simp [herrors] at h
  | false =>
      cases hcheck : (checkFile (parseFile file source)).value with
      | none => simp [herrors, hcheck] at h
      | some check =>
          obtain ⟨hfile, hlog⟩ := checkFile_of_some hcheck
          cases htree : declarationTree (parseFile file source) with
          | none => simp [herrors, htree] at h
          | some tree =>
              simp only [herrors, Bool.false_eq_true, if_false, Logged.value_bind, hcheck, htree,
                Logged.value_pure, Option.some.injEq] at h
              subst h
              refine ⟨⟨rfl, rfl, rfl, hfile.trans hname, htree⟩, ?_⟩
              simp [herrors, hcheck, htree, hlog]

/-! ## Memory -/

namespace Checker

/-- What is remembered is what checking the file with its text finds. -/
def Faithful (c : Checker) : Prop :=
  ∀ r ∈ c.memory, (checkAll r.checked.file r.checked.source).value = some r.checked

theorem faithful_empty : ({} : Checker).Faithful := by
  intro r hr
  cases hr

theorem Faithful.remember {c : Checker} (h : c.Faithful) {checked : CheckedFile}
    (hchecked : (checkAll checked.file checked.source).value = some checked) :
    (c.remember checked).Faithful := by
  intro r hr
  rcases List.mem_cons.mp hr with rfl | hr
  · exact hchecked
  · exact h r (List.mem_filter.mp hr).1

theorem Faithful.checkAnew {c : Checker} (h : c.Faithful) (file source : String) :
    (c.checkAnew file source).value.1 = (checkAll file source).value ∧
      (c.checkAnew file source).log = (checkAll file source).log ∧
      (c.checkAnew file source).value.2.Faithful := by
  unfold Checker.checkAnew
  cases hvalue : (checkAll file source).value with
  | none => exact ⟨by simp [hvalue], by simp [hvalue], by simpa [hvalue] using h⟩
  | some checked =>
      obtain ⟨hof, _⟩ := checkAll_of_some hvalue
      have hchecked : (checkAll checked.file checked.source).value = some checked := by
        rw [hof.file_eq, hof.source_eq, hvalue]
      exact ⟨by simp [hvalue], by simp [hvalue], by simpa [hvalue] using h.remember hchecked⟩

/-- An answer from memory is the one that checking anew would give, in the log as well. -/
theorem Faithful.check {c : Checker} (h : c.Faithful) (file source : String) :
    (c.check file source).value.1 = (checkAll file source).value ∧
      (c.check file source).log = (checkAll file source).log ∧
      (c.check file source).value.2.Faithful := by
  unfold Checker.check
  split
  next r hr =>
    split
    next hsource =>
      have hmem := List.mem_of_find?_eq_some hr
      have hfile : r.checked.file = file := by simpa using List.find?_some hr
      have hsource : r.checked.source = source := by simpa using hsource
      have hvalue := h r hmem
      rw [hfile, hsource] at hvalue
      exact ⟨hvalue.symm, (checkAll_of_some hvalue).2.symm, h⟩
    next => exact h.checkAnew file source
  next => exact h.checkAnew file source

theorem Faithful.typeCheck {c : Checker} (h : c.Faithful) (project file source : String) :
    (c.typeCheck project file source).value.1 = (checkAll file source).value ∧
      (c.typeCheck project file source).value.2.Faithful := by
  obtain ⟨hvalue, _, hfaithful⟩ := h.check file source
  have hsame : (c.typeCheck project file source).value = (c.check file source).value := by
    unfold Checker.typeCheck
    obtain ⟨⟨checked, next⟩, log⟩ := c.check file source
    cases checked <;> rfl
  rw [hsame]
  exact ⟨hvalue, hfaithful⟩

end Checker

/-! ## Projects -/

variable {π : Type}

/-- What is found in a file of a tree: nothing if it cannot be read or checked. -/
def checkedIn (tree : FileTree π) (file : String) : Except Failure (Option CheckedFile) :=
  match tree.readText (Path.ofString file) with
  | .ok source => .ok (checkAll file source).value
  | .error f => if f.isReadFailure then .ok none else .error f

/-- The results of files of a tree, each checked by itself. -/
def resultsIn (tree : FileTree π) : List String → Except Failure ProjectResults
  | [] => .ok {}
  | file :: rest => do
      let checked ← checkedIn tree file
      let results ← resultsIn tree rest
      return results.add file checked

/-- The memory of a checker does not show in the results of a project. -/
theorem Checker.Faithful.checkSources {c : Checker} (h : c.Faithful) (tree : FileTree π)
    (files : List String) :
    (Checker.checkSources tree c files).value.1 = resultsIn tree files ∧
      (Checker.checkSources tree c files).value.2.Faithful := by
  induction files generalizing c with
  | nil => exact ⟨rfl, h⟩
  | cons file rest ih =>
      unfold Checker.checkSources
      rw [resultsIn, checkedIn]
      cases hread : tree.readText (Path.ofString file) with
      | error f =>
          cases hexpected : f.isReadFailure with
          | false => exact ⟨by simp [hexpected], by simpa [hexpected] using h⟩
          | true =>
              obtain ⟨hresults, hfaithful⟩ := ih h
              simp only [hexpected, if_true, Logged.value_bind, Logged.value_pure, hresults]
              exact ⟨by cases resultsIn tree rest <;> rfl, hfaithful⟩
      | ok source =>
          obtain ⟨hvalue, _, hnext⟩ := h.check file source
          obtain ⟨hresults, hfaithful⟩ := ih hnext
          simp only [Logged.value_bind, Logged.value_pure, hvalue, hresults]
          exact ⟨by cases resultsIn tree rest <;> rfl, hfaithful⟩

/-- A call of a checker. The files may change between two calls. -/
inductive Checker.Call (π : Type) where
  | typeCheck (project file source : String)
  | checkProject (tree : FileTree π) (options : ProjectOptions)

/-- The checker after one more call. -/
def Checker.Call.perform (c : Checker) : Checker.Call π → Checker
  | .typeCheck project file source => (c.typeCheck project file source).value.2
  | .checkProject tree options => (c.checkProject tree options).value.2

/-- A checker after calls. -/
def Checker.after (calls : List (Checker.Call π)) : Checker :=
  calls.foldl Checker.Call.perform {}

theorem Checker.Faithful.perform {c : Checker} (h : c.Faithful) (call : Checker.Call π) :
    (call.perform c).Faithful := by
  cases call with
  | typeCheck project file source => exact (h.typeCheck project file source).2
  | checkProject tree options => exact (h.checkSources tree options.sources).2

theorem Checker.faithful_after (calls : List (Checker.Call π)) :
    (Checker.after calls).Faithful := by
  have hrun : ∀ c : Checker, c.Faithful → (calls.foldl Checker.Call.perform c).Faithful := by
    induction calls with
    | nil => exact fun c h => h
    | cons call rest ih => exact fun c h => ih _ (h.perform call)
  exact hrun {} faithful_empty

/-- Whatever a checker was asked before, a project has the results of its files. -/
theorem Checker.checkProject_after (calls : List (Checker.Call π)) (tree : FileTree π)
    (options : ProjectOptions) :
    ((Checker.after calls).checkProject tree options).value.1 = resultsIn tree options.sources :=
  ((Checker.faithful_after calls).checkSources tree options.sources).1

/-! ## Results by file -/

/-- The checked file that is found in a file of a tree, if any. -/
def checked? (tree : FileTree π) (file : String) : Option CheckedFile :=
  (checkedIn tree file).toOption.join

theorem checked?_of_checkedIn {tree : FileTree π} {file : String} {checked : Option CheckedFile}
    (h : checkedIn tree file = .ok checked) : checked? tree file = checked := by
  rw [checked?, h]
  rfl

theorem read_of_checked? {tree : FileTree π} {file : String} {checked : CheckedFile}
    (h : checked? tree file = some checked) :
    ∃ source, tree.readText (Path.ofString file) = .ok source ∧ checked.Of file source := by
  unfold checked? checkedIn at h
  cases hread : tree.readText (Path.ofString file) with
  | error f => cases hexpected : f.isReadFailure <;> simp [hread, hexpected, Except.toOption] at h
  | ok source =>
      rw [hread] at h
      exact ⟨source, rfl, (checkAll_of_some h).1⟩

/-- The results of a project list what is found in its files, in order, and the files in which
nothing is found. -/
theorem resultsIn_of_ok {tree : FileTree π} {files : List String} {results : ProjectResults}
    (h : resultsIn tree files = .ok results) :
    (∀ file ∈ files, checkedIn tree file = .ok (checked? tree file)) ∧
      results.files = files.filterMap (fun file => (checked? tree file).map (·.check)) ∧
      results.failed = files.filter fun file => (checked? tree file).isNone := by
  induction files generalizing results with
  | nil =>
      cases h
      exact ⟨by simp, rfl, rfl⟩
  | cons file rest ih =>
      rw [resultsIn] at h
      cases hfile : checkedIn tree file with
      | error f => simp [hfile, bind, Except.bind] at h
      | ok checked =>
          have hchecked := checked?_of_checkedIn hfile
          cases hrest : resultsIn tree rest with
          | error f => simp [hfile, hrest, bind, Except.bind] at h
          | ok others =>
              obtain ⟨hall, hfiles, hfailed⟩ := ih hrest
              simp only [hfile, hrest, bind, Except.bind, pure, Except.pure, Except.ok.injEq] at h
              subst h
              refine ⟨?_, ?_, ?_⟩
              · intro other hother
                rcases List.mem_cons.mp hother with rfl | hother
                · rw [hfile, hchecked]
                · exact hall other hother
              · cases checked <;>
                  simp [ProjectResults.add, ProjectResults.addFailed, hchecked, hfiles]
              · cases checked <;>
                  simp [ProjectResults.add, ProjectResults.addFailed, hchecked, hfailed]

/-- A file that is listed several times has one result. -/
theorem forFile_of_checked? {tree : FileTree π} {files : List String} {results : ProjectResults}
    (h : resultsIn tree files = .ok results) {file : String} (hfile : file ∈ files)
    {checked : CheckedFile} (hchecked : checked? tree file = some checked) :
    results.forFile file = some checked.check := by
  rw [ProjectResults.forFile, (resultsIn_of_ok h).2.1]
  clear h
  induction files with
  | nil => cases hfile
  | cons other rest ih =>
      -- a file in front with the same name is the same file, any other one is passed over
      cases hother : checked? tree other with
      | none =>
          have hne : file ≠ other := by
            rintro rfl
            rw [hchecked] at hother
            cases hother
          rw [List.filterMap_cons_none (by simp [hother])]
          exact ih ((List.mem_cons.mp hfile).resolve_left hne)
      | some found =>
          obtain ⟨source, _, hof⟩ := read_of_checked? hother
          rw [List.filterMap_cons_some (b := found.check) (by simp [hother])]
          by_cases hsame : other = file
          · subst hsame
            rw [hchecked] at hother
            cases hother
            simp [hof.check_file]
          · rw [List.find?_cons_of_neg (by simp [hof.check_file, hsame])]
            exact ih ((List.mem_cons.mp hfile).resolve_left (Ne.symm hsame))

end Assay.Check
