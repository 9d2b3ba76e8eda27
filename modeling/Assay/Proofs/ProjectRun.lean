import Assay.Project.Run
import Assay.Proofs.Checker
import Assay.Proofs.Runner

/-! # Runs on a project

A run on a project reads and checks its files twice: all of them before any analyzer is called, and
each one that is not ignored again before its own analyzers are. Both passes find the same, so the
messages are told by the file tree: those of all analyzers for each file that is analyzed, in order.
-/

namespace Assay

open Check Plugin

/-! ## Severities -/

/-- A message with the severity that its code is mapped to. -/
def SeverityMappings.remapped (m : SeverityMappings) (message : AnalyzerMessage) :
    AnalyzerMessage :=
  match m.targetFor message.code with
  | some s => message.withSeverity s
  | none => message

/-- Giving a message its severity fails exactly if its code cannot be looked up. -/
theorem SeverityMappings.apply_eq (m : SeverityMappings) (message : AnalyzerMessage) :
    m.apply message = (Value.requireSearchable message.code).map fun _ => m.remapped message := by
  unfold apply targetOf remapped
  cases message.code.requireSearchable with
  | error f => rfl
  | ok _ =>
      simp only [bind, Except.bind, pure, Except.pure, Except.map]
      cases m.targetFor message.code <;> rfl

/-- The first message with a code that cannot be looked up spoils all of them. -/
theorem remapAll_eq (mappings : SeverityMappings) (messages : List AnalyzerMessage) :
    remapAll mappings messages =
      match messages.findSome? (·.code.unsearchable?) with
      | some type => .error (Value.keyFailure type)
      | none => .ok (messages.map mappings.remapped) := by
  unfold remapAll
  induction messages with
  | nil => rfl
  | cons message rest ih =>
      rw [List.mapM_cons, SeverityMappings.apply_eq, Value.requireSearchable, ih,
        List.findSome?_cons]
      cases message.code.unsearchable? with
      | some type => rfl
      | none => cases rest.findSome? (·.code.unsearchable?) <;> rfl

theorem remapAll_of_keys {mappings : SeverityMappings} {messages : List AnalyzerMessage}
    (h : ∀ m ∈ messages, m.code.unsearchable? = none) :
    remapAll mappings messages = .ok (messages.map mappings.remapped) := by
  rw [remapAll_eq, List.findSome?_eq_none_iff.mpr h]

/-! ## Files -/

/-- The context that analyzers are given for a file of a project. -/
def contextOf (tree : FileTree Program) (project : ProjectResults) (file : String) : Context :=
  let source := (tree.readText (Path.ofString file)).toOption
  { kind := .cli, file, source, parse := source.map (parseFile file), check := project.forFile file
    tree := source.bind fun source => declarationTree (parseFile file source)
    project := some project }

/-- The files of a project that are analyzed: no glob tells them, and they did not fail. -/
def analyzedFiles (options : ProjectOptions) (ignored : List String) (project : ProjectResults) :
    List String :=
  options.sources.filter fun file => Glob.matching? file ignored = none ∧ file ∉ project.failed

theorem Glob.keepUntold_value (globs files : List String) :
    (keepUntold globs files).value = files.filter fun file => (matching? file globs).isNone := by
  induction files with
  | nil => rfl
  | cons file rest ih =>
      unfold keepUntold
      cases htold : matching? file globs with
      | some glob => simpa [htold] using ih
      | none => simp [htold, ih]

theorem readSource_outcome (tree : FileTree Program) (file : String) :
    Attempt.outcome (readSource tree file) =
      match tree.readText (Path.ofString file) with
      | .ok source => .ok (some source)
      | .error f => if f.isReadFailure then .ok none else .error f := by
  unfold readSource
  cases tree.readText (Path.ofString file) with
  | ok source => rfl
  | error f => cases hexpected : f.isReadFailure <;> simp [hexpected]

/-- The messages for a context, with the severities that are configured. -/
def messagesFor (registry : Registry) (mappings : SeverityMappings) (c : Context) :
    Except Failure (List AnalyzerMessage) :=
  Attempt.outcome (registry.run c) >>= remapAll mappings

theorem analyzeChecked_outcome (registry : Registry) (mappings : SeverityMappings)
    (project : ProjectResults) (checked : CheckedFile) :
    Attempt.outcome (analyzeChecked registry mappings project checked) =
      messagesFor registry mappings (.ofChecked project checked) := by
  simp [analyzeChecked, messagesFor]

/-! ## One file after the other -/

/-- What each of some things gives, one after the other, unless one of them fails. -/
def collect {α β : Type} (f : α → Except Failure (List β)) (xs : List α) :
    Except Failure (List β) :=
  (xs.mapM f).map List.flatten

theorem collect_cons {α β : Type} (f : α → Except Failure (List β)) (x : α) (xs : List α) :
    collect f (x :: xs) = f x >>= fun ys => (collect f xs).map (ys ++ ·) := by
  unfold collect
  rw [List.mapM_cons]
  cases f x with
  | error e => rfl
  | ok ys => cases xs.mapM f <;> rfl

theorem collect_congr {α β : Type} {f g : α → Except Failure (List β)} {xs : List α}
    (h : ∀ x ∈ xs, f x = g x) : collect f xs = collect g xs := by
  induction xs with
  | nil => rfl
  | cons x xs ih =>
      rw [collect_cons, collect_cons, h x List.mem_cons_self,
        ih fun y hy => h y (List.mem_cons_of_mem x hy)]

theorem collect_map {α β γ : Type} (f : β → Except Failure (List γ)) (g : α → β) (xs : List α) :
    collect f (xs.map g) = collect (fun x => f (g x)) xs := by
  unfold collect
  rw [List.mapM_map]
  rfl

theorem collect_of_ok {α β : Type} {f : α → Except Failure (List β)} {g : α → List β} {xs : List α}
    (h : ∀ x ∈ xs, f x = .ok (g x)) : collect f xs = .ok (xs.flatMap g) := by
  induction xs with
  | nil => rfl
  | cons x xs ih =>
      rw [collect_cons, h x List.mem_cons_self, ih fun y hy => h y (List.mem_cons_of_mem x hy)]
      rfl

/-- Collecting fails with one of the failures, and only if there is one. -/
theorem collect_of_error {α β : Type} {f : α → Except Failure (List β)} {xs : List α} {e : Failure}
    (h : collect f xs = .error e) : ∃ x ∈ xs, f x = .error e := by
  induction xs with
  | nil => cases h
  | cons x xs ih =>
      rw [collect_cons] at h
      cases hx : f x with
      | error other =>
          rw [hx] at h
          cases h
          exact ⟨x, List.mem_cons_self, hx⟩
      | ok ys =>
          cases hrest : collect f xs with
          | ok more => simp [hx, hrest, Except.map] at h
          | error other =>
              rw [hx, hrest] at h
              cases h
              obtain ⟨y, hy, hfy⟩ := ih hrest
              exact ⟨y, List.mem_cons_of_mem x hy, hfy⟩

theorem of_collect_ok {α β : Type} {f : α → Except Failure (List β)} {xs : List α} {ys : List β}
    (h : collect f xs = .ok ys) : ∀ x ∈ xs, ∃ zs, f x = .ok zs := by
  induction xs generalizing ys with
  | nil => simp
  | cons x xs ih =>
      rw [collect_cons] at h
      cases hx : f x with
      | error other =>
          rw [hx] at h
          cases h
      | ok zs =>
          cases hrest : collect f xs with
          | error other =>
              rw [hx, hrest] at h
              cases h
          | ok more =>
              intro y hy
              rcases List.mem_cons.mp hy with rfl | hy
              · exact ⟨zs, hx⟩
              · exact ih hrest y hy

/-- If the second pass reads the files as the first one did, it gives the messages for those that
were checked. -/
theorem analyzeFiles_outcome {registry : Registry} {tree : FileTree Program}
    {options : ProjectOptions} {mappings : SeverityMappings} {project : ProjectResults}
    {files : List String} (hfiles : ∀ file ∈ files, checkedIn tree file = .ok (checked? tree file))
    {checker : Checker} (hchecker : checker.Faithful) :
    (Attempt.outcome
        (analyzeFiles registry tree options mappings project checker files)).map (·.1) =
      collect (messagesFor registry mappings)
        ((files.filterMap (checked? tree)).map (Context.ofChecked project)) := by
  induction files generalizing checker with
  | nil => rfl
  | cons file rest ih =>
      have hrest : ∀ other ∈ rest, checkedIn tree other = .ok (checked? tree other) :=
        fun other hother => hfiles other (List.mem_cons_of_mem file hother)
      have hfile := hfiles file List.mem_cons_self
      unfold analyzeFiles
      rw [Attempt.outcome_bind, readSource_outcome]
      unfold checkedIn at hfile
      cases hread : tree.readText (Path.ofString file) with
      | error f =>
          cases hexpected : f.isReadFailure with
          | false => simp [hread, hexpected] at hfile
          | true =>
              have hnone : checked? tree file = none := by
                simpa [hread, hexpected] using hfile.symm
              simpa [hexpected, hnone] using ih hrest hchecker
      | ok source =>
          -- the memory is faithful, so the file is found as the first pass found it
          obtain ⟨hvalue, hnext⟩ := hchecker.typeCheck options.name file source
          have hfound : (checkAll file source).value = checked? tree file := by
            simpa [hread] using hfile
          rw [hfound] at hvalue
          have hmore := ih hrest hnext
          simp only [Attempt.ok_bind, Attempt.outcome_bind, Attempt.outcome_ofLogged, hvalue]
          cases hchecked : checked? tree file with
          | none =>
              rw [List.filterMap_cons_none hchecked]
              exact hmore
          | some checked =>
              rw [List.filterMap_cons_some hchecked, List.map_cons, collect_cons, ← hmore]
              simp only [Attempt.outcome_bind, analyzeChecked_outcome, Attempt.outcome_pure]
              cases messagesFor registry mappings (.ofChecked project checked) with
              | error f => rfl
              | ok messages =>
                  cases Attempt.outcome (analyzeFiles registry tree options mappings project
                    (checker.typeCheck options.name file source).value.2 rest) <;> rfl

/-- The contexts of the files that are analyzed. -/
def analyzedContexts (tree : FileTree Program) (options : ProjectOptions) (ignored : List String)
    (project : ProjectResults) : List Context :=
  (analyzedFiles options ignored project).map (contextOf tree project)

theorem ofChecked_eq_contextOf {tree : FileTree Program} {files : List String}
    {project : ProjectResults} (hproject : resultsIn tree files = .ok project) {file : String}
    (hfile : file ∈ files) {checked : CheckedFile} (hchecked : checked? tree file = some checked) :
    Context.ofChecked project checked = contextOf tree project file := by
  obtain ⟨source, hread, hof⟩ := read_of_checked? hchecked
  have hcheck := forFile_of_checked? hproject hfile hchecked
  simp [Context.ofChecked, contextOf, hread, hcheck, hof.file_eq, hof.source_eq, hof.parse_eq,
    hof.tree_eq, Except.toOption]

theorem mem_failed {tree : FileTree Program} {files : List String} {project : ProjectResults}
    (hproject : resultsIn tree files = .ok project) {file : String} (hfile : file ∈ files) :
    file ∈ project.failed ↔ checked? tree file = none := by
  rw [(resultsIn_of_ok hproject).2.2, List.mem_filter, Option.isNone_iff_eq_none]
  exact and_iff_right hfile

/-- The files that the second pass finds checked are those that are analyzed. -/
theorem contexts_of_kept {tree : FileTree Program} {options : ProjectOptions}
    {project : ProjectResults} (hproject : resultsIn tree options.sources = .ok project)
    (ignored : List String) :
    (((options.sources.filter fun file => (Glob.matching? file ignored).isNone).filterMap
        (checked? tree)).map (Context.ofChecked project)) =
      analyzedContexts tree options ignored project := by
  -- what failed is told by all sources, so the induction runs over a part of them
  have hpart : ∀ files, files ⊆ options.sources →
      (((files.filter fun file => (Glob.matching? file ignored).isNone).filterMap
        (checked? tree)).map (Context.ofChecked project)) =
      (files.filter fun file => Glob.matching? file ignored = none ∧ file ∉ project.failed).map
        (contextOf tree project) := by
    intro files hfiles
    induction files with
    | nil => rfl
    | cons file rest ih =>
        have hfile : file ∈ options.sources := hfiles List.mem_cons_self
        have hrest := ih fun other hother => hfiles (List.mem_cons_of_mem file hother)
        have hfailed := mem_failed hproject hfile
        cases htold : Glob.matching? file ignored with
        | some glob => simpa [htold] using hrest
        | none =>
            cases hchecked : checked? tree file with
            | none => simpa [htold, hchecked, hfailed] using hrest
            | some checked =>
                have hcontext := ofChecked_eq_contextOf hproject hfile hchecked
                simpa [htold, hchecked, hfailed, hcontext] using hrest
  exact hpart options.sources (List.Subset.refl _)

/-- The messages of a run on a project do not depend on what the checker remembers. -/
theorem runProject_outcome {checker : Checker} (hchecker : checker.Faithful) (registry : Registry)
    (tree : FileTree Program) (options : ProjectOptions) (ignored : List String)
    (mappings : SeverityMappings) :
    (Attempt.outcome (runProject registry tree options ignored mappings checker)).map (·.1) =
      resultsIn tree options.sources >>= fun project =>
        collect (messagesFor registry mappings)
          (analyzedContexts tree options ignored project) := by
  obtain ⟨hresults, hnext⟩ := hchecker.checkSources tree options.sources
  unfold runProject Checker.checkProject
  simp only [Attempt.outcome_bind, Attempt.outcome_ofLogged, Attempt.outcome_ofExcept,
    Attempt.ok_bind, hresults, Glob.keepUntold_value]
  cases hproject : resultsIn tree options.sources with
  | error f => rfl
  | ok project =>
      have hread := (resultsIn_of_ok hproject).1
      rw [Attempt.ok_bind, Attempt.ok_bind, ← contexts_of_kept hproject ignored]
      exact analyzeFiles_outcome (fun file hfile => hread file (List.mem_filter.mp hfile).1) hnext

/-! ## Exact runs -/

/-- What a run on a project gives, when `project` are the results of its first pass. -/
structure ExactRun (registry : Registry) (tree : FileTree Program) (options : ProjectOptions)
    (ignored : List String) (mappings : SeverityMappings) (project : ProjectResults)
    (outcome : Except Failure (List AnalyzerMessage)) : Prop where
  /-- The results are those of all files, also of the ignored ones. -/
  files : project.files = options.sources.filterMap fun file => (checked? tree file).map (·.check)
  /-- The files that failed are those that cannot be read or checked. -/
  failed : project.failed = options.sources.filter fun file => (checked? tree file).isNone
  /-- The context of a file holds its text, its own results and those of the project. -/
  contexts : ∀ file ∈ analyzedFiles options ignored project, ∃ source check,
    tree.readText (Path.ofString file) = .ok source ∧ project.forFile file = some check ∧
      contextOf tree project file =
        { kind := .cli, file, source := some source, parse := some (parseFile file source)
          check := some check, tree := declarationTree (parseFile file source)
          project := some project }
  /-- The run is the one of all analyzers on each file that is analyzed, in order. -/
  run : outcome = collect
    (fun file => (Attempt.outcome (registry.run (contextOf tree project file))).map
      (·.map mappings.remapped))
    (analyzedFiles options ignored project)
  /-- If the analyzers give messages for these files, they are the messages of the run. -/
  messages : ∀ given : String → List AnalyzerMessage,
    (∀ file ∈ analyzedFiles options ignored project,
      Attempt.outcome (registry.run (contextOf tree project file)) = .ok (given file)) →
    outcome = .ok ((analyzedFiles options ignored project).flatMap fun file =>
      (given file).map mappings.remapped)

theorem messagesFor_of_keys {registry : Registry} {mappings : SeverityMappings} {c : Context}
    (h : ∀ ms, Attempt.outcome (registry.run c) = .ok ms → ∀ m ∈ ms, m.code.unsearchable? = none) :
    messagesFor registry mappings c =
      (Attempt.outcome (registry.run c)).map (·.map mappings.remapped) := by
  unfold messagesFor
  cases hrun : Attempt.outcome (registry.run c) with
  | error f => rfl
  | ok ms => exact remapAll_of_keys (h ms hrun)

theorem contextOf_of_analyzed {tree : FileTree Program} {options : ProjectOptions}
    {ignored : List String} {project : ProjectResults}
    (hproject : resultsIn tree options.sources = .ok project) {file : String}
    (hfile : file ∈ analyzedFiles options ignored project) :
    ∃ source check, tree.readText (Path.ofString file) = .ok source ∧
      project.forFile file = some check ∧ contextOf tree project file =
        { kind := .cli, file, source := some source, parse := some (parseFile file source)
          check := some check, tree := declarationTree (parseFile file source)
          project := some project } := by
  obtain ⟨hsource, hkept⟩ := List.mem_filter.mp hfile
  have hgood : file ∉ project.failed := (of_decide_eq_true hkept).2
  rw [mem_failed hproject hsource] at hgood
  obtain ⟨checked, hchecked⟩ := Option.ne_none_iff_exists'.mp hgood
  obtain ⟨source, hread, _⟩ := read_of_checked? hchecked
  have hforFile := forFile_of_checked? hproject hsource hchecked
  refine ⟨source, checked.check, hread, hforFile, ?_⟩
  simp [contextOf, hread, hforFile, Except.toOption]

/-- A run on a project gives the messages of all analyzers for the files that are neither ignored
nor failed, whatever the checker was asked before. -/
theorem runProject_exact (registry : Registry) (tree : FileTree Program) (options : ProjectOptions)
    (ignored : List String) (mappings : SeverityMappings) (calls : List (Checker.Call Program))
    (hcodes : ∀ c ms, Attempt.outcome (registry.run c) = .ok ms →
      ∀ m ∈ ms, m.code.unsearchable? = none) :
    let checker := Checker.after calls
    let outcome :=
      (Attempt.outcome (runProject registry tree options ignored mappings checker)).map (·.1)
    (∀ f, (checker.checkProject tree options).value.1 = .error f → outcome = .error f) ∧
      ∀ project, (checker.checkProject tree options).value.1 = .ok project →
        ExactRun registry tree options ignored mappings project outcome := by
  intro checker outcome
  have hrun : outcome = _ :=
    runProject_outcome (Checker.faithful_after calls) registry tree options ignored mappings
  rw [Checker.checkProject_after]
  constructor
  · intro f hf
    rw [hrun, hf]
    rfl
  · intro project hproject
    rw [hproject, Attempt.ok_bind, analyzedContexts, collect_map] at hrun
    have hmessages := hrun.trans (collect_congr fun file _ => messagesFor_of_keys (hcodes _))
    obtain ⟨_, hfiles, hfailed⟩ := resultsIn_of_ok hproject
    refine ⟨hfiles, hfailed, fun file hfile => contextOf_of_analyzed hproject hfile, hmessages, ?_⟩
    intro given hgiven
    refine hmessages.trans (collect_of_ok ?_)
    intro file hfile
    rw [hgiven file hfile]
    rfl

/-- A message about a whole file. -/
def remark (code : Value) (c : Context) : Message :=
  { type := .text "Remark", text := .text "seen", code, severity := .info
    range := { file := c.file, startLine := 1, startColumn := 0, endLine := 1, endColumn := 0 } }

/-- An analyzer that gives each file a message with the same code. -/
def remarkOn (name : String) (code : Value) : Descriptor :=
  { name := .text name, kind := .cli
    call := fun c => .ok (.many [.message (remark code c)] none) }

theorem contribution_remarkOn (name : String) (code : Value) (c : Context) :
    (remarkOn name code).contribution c = [(remarkOn name code).tag (remark code c)] := rfl

theorem run_remarkOn (name : String) (code : Value) (c : Context) :
    Attempt.outcome (Registry.run { entries := [(.text name, remarkOn name code)] } c) =
      .ok [(remarkOn name code).tag (remark code c)] := by
  have hnames : DistinctlyNamed [remarkOn name code] :=
    ⟨fun d hd => ⟨name, by rw [List.mem_singleton.mp hd]; rfl⟩, List.nodup_singleton _⟩
  have hrun := (hnames.runAll_eq c none (List.range 1)).1
  have hsingle : inOrder [remarkOn name code] = [remarkOn name code] := rfl
  rw [hsingle, List.flatMap_singleton, contribution_remarkOn] at hrun
  exact hrun

/-- A file that is analyzed twice and was checked with another text before, one that cannot be
checked and one that is ignored. -/
theorem runProject_exact_remark :
    let registry : Registry := { entries := [(.text "Remark", remarkOn "Remark" (.text "N1"))] }
    let tree : FileTree Program :=
      { entries := [(["a.py"], .file [] none), (["b.py"], .file [0] none),
          (["c.py"], .file [] none)] }
    let options : ProjectOptions :=
      { name := "P", root := "/", sources := ["/a.py", "/b.py", "/c.py", "/a.py"] }
    let mappings : SeverityMappings := { error := [.text "N1"] }
    let checker := Checker.after [.typeCheck "P" "/a.py" "\n", .checkProject tree options]
    (∀ c ms, Attempt.outcome (registry.run c) = .ok ms → ∀ m ∈ ms, m.code.unsearchable? = none) ∧
      ((Attempt.outcome
          (runProject registry tree options ["*c.py"] mappings checker)).map (·.1)).map
          (List.map fun m => (m.message.range.file, m.severity)) =
        .ok [("/a.py", .error), ("/a.py", .error)] := by
  intro registry tree options mappings checker
  have hcodes : ∀ c ms, Attempt.outcome (registry.run c) = .ok ms →
      ∀ m ∈ ms, m.code.unsearchable? = none := by
    intro c ms hms m hm
    rw [run_remarkOn] at hms
    cases hms
    rw [List.mem_singleton.mp hm]
    rfl
  refine ⟨hcodes, ?_⟩
  have hexact := (runProject_exact registry tree options ["*c.py"] mappings
    [.typeCheck "P" "/a.py" "\n", .checkProject tree options] hcodes).2
  have hcheck : (checker.checkProject tree options).value.1.isOk = true := by decide +kernel
  have hremapped : ∀ c,
      mappings.remapped ((remarkOn "Remark" (.text "N1")).tag (remark (.text "N1") c)) =
        ((remarkOn "Remark" (.text "N1")).tag (remark (.text "N1") c)).withSeverity .error := by
    have htarget : mappings.targetFor (.text "N1") = some .error := by decide +kernel
    intro c
    simp only [SeverityMappings.remapped, AnalyzerMessage.code, Descriptor.tag, remark, htarget]
  cases hproject : (checker.checkProject tree options).value.1 with
  | error f => simp [hproject, Except.isOk, Except.toBool] at hcheck
  | ok project =>
      have hrun := hexact project hproject
      have hanalyzed : analyzedFiles options ["*c.py"] project = ["/a.py", "/a.py"] := by
        rw [analyzedFiles, hrun.failed]
        decide +kernel
      have hmessages := hrun.messages _ fun file _ => run_remarkOn "Remark" (.text "N1") _
      rw [hanalyzed] at hmessages
      rw [hmessages]
      simp only [List.map_singleton, hremapped]
      rfl

end Assay
