import Assay.Proofs.OrderlyAnalysis
import Assay.Proofs.Projects

/-! # What a run keeps to

A run that nothing stops from outside returns one of three numbers, by which others can tell whether
there was an analysis and whether something is wrong with what was analyzed. A report that is asked
for has no part in this: runs that differ in the report only print the same and return the same.
-/

namespace Assay.Command

open Plugin

/-! ## Analyses of a run -/

/-- The number that a run returns, unless it ends otherwise. -/
def Ending.returned? : Ending → Option Nat
  | .exit code => some code.number
  | _ => none

/-- What a run finds out: it loads its configuration, and analyzes with it. -/
def analysisOf (tree : FileTree Program) (a : Arguments) : Except Failure Analysis := do
  let config ← configOf tree a
  Attempt.outcome (analyze tree (a.projects.getD []) a.sources config tree.workingDirectory)

/-- A run that nothing stops from outside. Its files are as systems have them, its configuration is
loaded or refused by the host, what it looks for can be looked up, and what its analyzers give can be
written. -/
structure Orderly (tree : FileTree Program) (a : Arguments) : Prop where
  proper : tree.Proper
  loads : ∀ f, configOf tree a = .error f → f.isHostFailure = true
  analysis : ∀ config, configOf tree a = .ok config →
    config.IsOrderly tree (a.projects.getD []) a.sources
  paths : ∀ config, configOf tree a = .ok config → ∀ key : ConfigKey,
    key = .report ∨ key = .codeRoot → ∀ s ∈ textOf config key,
      FileTree.hasNul (Path.ofString s) = false
  few : ∀ analysis, analysisOf tree a = .ok analysis →
    analysis.messages.length < Nat.pow 10 Decimal.digitLimit

/-- The configuration of a run is shown without a fault. -/
theorem logConfig_outcome {config : Config} (h : config.IsTextual) :
    Attempt.outcome (logConfig config) = .ok () := by
  obtain ⟨info, hinfo⟩ := h.texts (.treatAs .info) rfl
  obtain ⟨hint, hhint⟩ := h.texts (.treatAs .hint) rfl
  obtain ⟨warning, hwarning⟩ := h.texts (.treatAs .warning) rfl
  obtain ⟨error, herror⟩ := h.texts (.treatAs .error) rfl
  obtain ⟨ignored, hignored⟩ := h.texts .ignoreFiles rfl
  simp only [logConfig, Severity.all, List.forIn_cons, List.forIn_nil, Attempt.outcome_bind,
    Attempt.outcome_note, Attempt.ok_bind, hinfo, hhint, hwarning, herror, hignored]
  split <;> simp

/-! ## Runs -/

section

variable (console : Report.Console) {tree : FileTree Program} {a : Arguments} {config : Config}

/-- A run with an analysis that fails as the host does prints nothing and leaves the files alone. -/
theorem runWith_of_error (htextual : config.IsTextual) {f : Failure} (hhost : f.isHostFailure = true)
    (h : Attempt.outcome (analyze tree (a.projects.getD []) a.sources config tree.workingDirectory) =
      .error f) :
    let o := runWith console tree a config
    o.ending = .exit .error ∧ o.output = "" ∧ o.tree = tree := by
  have hrun : Attempt.outcome (logConfig config >>= fun _ =>
      analyze tree (a.projects.getD []) a.sources config tree.workingDirectory) = .error f := by
    rw [Attempt.outcome_bind, logConfig_outcome htextual, Attempt.ok_bind, h]
  simp only [Attempt.outcome] at hrun
  simp only [runWith, hrun, failWith, hhost, if_true, and_self]

/-- A run with messages that can be written prints them all, whatever becomes of its report. -/
theorem runWith_of_ok (htextual : config.IsTextual) {analysis : Analysis} (hproper : tree.Proper)
    (hpaths : ∀ key : ConfigKey, key = .report ∨ key = .codeRoot → ∀ s ∈ textOf config key,
      FileTree.hasNul (Path.ofString s) = false)
    (hwritable : ∀ m ∈ analysis.messages, m.IsWritable)
    (hfew : analysis.messages.length < Nat.pow 10 Decimal.digitLimit)
    (h : Attempt.outcome (analyze tree (a.projects.getD []) a.sources config tree.workingDirectory) =
      .ok analysis) :
    let o := runWith console tree a config
    o.ending = .exit analysis.exitCode ∧
      o.output = console.printMessages (config.get .verbose).isTrue analysis.messages := by
  have hrun : Attempt.outcome (logConfig config >>= fun _ =>
      analyze tree (a.projects.getD []) a.sources config tree.workingDirectory) = .ok analysis := by
    rw [Attempt.outcome_bind, logConfig_outcome htextual, Attempt.ok_bind, h]
  have hprinted : console.tryMessages (config.get .verbose).isTrue analysis.messages =
      (console.printMessages (config.get .verbose).isTrue analysis.messages, .ok ()) :=
    if_pos (List.all_eq_true.mpr fun m hm => (hwritable m hm).printable)
  simp only [Attempt.outcome] at hrun
  simp only [runWith, hrun, hprinted]
  exact (writeReport_keeps hproper hpaths hwritable hfew).symm

end

/-- How a run ends that nothing stops: without an analysis, or with the messages of one. -/
inductive Ends (console : Report.Console) (tree : FileTree Program) (a : Arguments) (o : Outcome) :
    Prop where
  | refused (f : Failure) (failed : analysisOf tree a = .error f) (host : f.isHostFailure = true)
      (ending : o.ending = .exit .error) (output : o.output = "") (unchanged : o.tree = tree)
  | analyzed (config : Config) (analysis : Analysis) (loaded : configOf tree a = .ok config)
      (found : analysisOf tree a = .ok analysis)
      (exitCode : analysis.exitCode = .ofMessages (some analysis.messages))
      (ending : o.ending = .exit analysis.exitCode)
      (output : o.output = console.printMessages (config.get .verbose).isTrue analysis.messages)

theorem run_ends (console : Report.Console) {tree : FileTree Program} {arguments : List String}
    {a : Arguments} (hparse : Arguments.parse arguments = .ok a) (h : Orderly tree a) :
    Ends console tree a (run console tree arguments) := by
  unfold run
  simp only [hparse]
  cases hconfig : configOf tree a with
  | error f =>
      have hhost := h.loads f hconfig
      simp only [failWith, hhost, if_true]
      exact .refused f (by rw [analysisOf, hconfig]; rfl) hhost rfl rfl rfl
  | ok config =>
      have htextual := isTextual_of_configOf hconfig
      have hanalysis : analysisOf tree a = Attempt.outcome (analyze tree (a.projects.getD [])
          a.sources config tree.workingDirectory) := by
        rw [analysisOf, hconfig, Attempt.ok_bind]
      have hends := analyze_endsWell h.proper htextual (h.analysis config hconfig)
      cases hanalyze : Attempt.outcome (analyze tree (a.projects.getD []) a.sources config
        tree.workingDirectory) with
      | error f =>
          rw [hanalyze] at hends hanalysis
          obtain ⟨hending, houtput, htree⟩ := runWith_of_error console htextual hends hanalyze
          exact .refused f hanalysis hends hending houtput htree
      | ok analysis =>
          rw [hanalyze] at hends hanalysis
          obtain ⟨hending, houtput⟩ := runWith_of_ok console htextual h.proper
            (h.paths config hconfig) hends.2 (h.few analysis hanalysis) hanalyze
          exact .analyzed config analysis hconfig hanalysis hends.1 hending houtput

/-! ## Runs that differ in the report -/

/-- Runs that differ in the report and its code root only, which the arguments or a configuration
file can name. Trees can differ in the configuration files then, and in no file that is looked
into. -/
structure DifferInReport (tree : FileTree Program) (a : Arguments) (other : FileTree Program)
    (b : Arguments) : Prop where
  outline : tree.SameOutline other
  arguments : a.AgreeOnAnalysis b
  loads : (∃ c, fileConfigOf tree a = .ok c) ↔ ∃ d, fileConfigOf other b = .ok d
  configs : ∀ c d, fileConfigOf tree a = .ok c → fileConfigOf other b = .ok d →
    c.AgreeOnAnalysis d
  read : ∀ config, configOf tree a = .ok config →
    ∀ q ∈ filesRead tree (a.projects.getD []) a.sources config tree.workingDirectory,
      other.locate q = tree.locate q

theorem configOf_isOk_iff {tree : FileTree Program} {a : Arguments} :
    (∃ c, configOf tree a = .ok c) ↔ ∃ c, fileConfigOf tree a = .ok c := by
  rw [configOf_eq]
  exact Attempt.exists_map_eq_ok_iff

section

variable {tree other : FileTree Program} {a b : Arguments}

/-- Runs that differ in the report only find out the same. -/
theorem analysisOf_differ {c d : Config} (hproper : tree.Proper)
    (h : DifferInReport tree a other b) (hc : configOf tree a = .ok c)
    (hd : configOf other b = .ok d) :
    d.get .verbose = c.get .verbose ∧ analysisOf other b = analysisOf tree a := by
  have hagree := configOf_agree h.configs h.arguments hc hd
  refine ⟨hagree .verbose (by simp) (by simp) (by simp), ?_⟩
  rw [analysisOf, analysisOf, hc, hd, Attempt.ok_bind, Attempt.ok_bind, h.arguments.projects,
    h.arguments.sources, h.outline.workingDirectory, hagree.analyze_eq]
  exact h.outline.analyze hproper (h.read c hc)

theorem Ends.eq_of_differ {console : Report.Console} {o p : Outcome} (hproper : tree.Proper)
    (h : DifferInReport tree a other b) (ho : Ends console tree a o) (hp : Ends console other b p) :
    p.ending = o.ending ∧ p.output = o.output := by
  have hloads : (∃ c, configOf tree a = .ok c) ↔ ∃ d, configOf other b = .ok d := by
    rw [configOf_isOk_iff, configOf_isOk_iff]
    exact h.loads
  cases ho with
  | refused f failed host ending output unchanged =>
      cases hp with
      | refused g _ _ hending houtput _ => exact ⟨by rw [hending, ending], by rw [houtput, output]⟩
      | analyzed d analysis loaded found =>
          obtain ⟨c, hc⟩ := hloads.mpr ⟨d, loaded⟩
          have hsame := (analysisOf_differ hproper h hc loaded).2
          cases failed.symm.trans (hsame.symm.trans found)
  | analyzed c analysis loaded found exitCode ending output =>
      obtain ⟨d, hd⟩ := hloads.mp ⟨c, loaded⟩
      obtain ⟨hverbose, hsame⟩ := analysisOf_differ hproper h loaded hd
      cases hp with
      | refused g failed => cases failed.symm.trans (hsame.trans found)
      | analyzed e others hloaded hfound _ hending houtput =>
          cases hd.symm.trans hloaded
          cases hfound.symm.trans (hsame.trans found)
          exact ⟨by rw [hending, ending], by rw [houtput, output, hverbose]⟩

end

/-! ## A small tree -/

/-- A file to analyze, and a plugin with some bytes. -/
def smallTree (bytes : List UInt8) (plugin : Program) : FileTree Program :=
  { entries := [(["an"], .directory), (["an", "x_analyzer.py"], .file bytes (some plugin)),
      (["a.py"], .file [] none)] }

/-- A plugin whose analyzer gives each file a message with some fields. -/
def remarking (fields : List (String × Json)) : Program :=
  { members := [.function { name := "a", marker := some { kind := .cli, name := .text "A" },
                            behaviour := .emit [.object fields] }]
    exports := .list [.text "a"] }

/-- A plugin whose messages are violations. -/
def alarming : Program := remarking [("severity", .text "error")]

/-- An analysis of the file is asked for, perhaps with a report. -/
def requested (report : Option String) : List String :=
  ["--sources", "a.py", "--analyzers-path", "an"] ++ report.elim [] (["--report", ·])

/-- What such arguments ask for. -/
def request (report : Option String) : Arguments :=
  { sources := some ["a.py"], analyzersPath := some ["an"], report }

theorem parse_requested : Arguments.parse (requested none) = .ok (request none) := by
  have hpieces : Piece.ofArguments (requested none) =
      .ok [.option .sources none, .plain "a.py", .option .analyzersPath none, .plain "an"] := by
    decide +kernel
  rw [Arguments.parse, hpieces]
  rfl

theorem parse_requested_report {report : String} (h : report = "an" ∨ report = "r.sarif") :
    Arguments.parse (requested (some report)) = .ok (request (some report)) := by
  have hpieces : Piece.ofArguments (requested (some report)) =
      .ok [.option .sources none, .plain "a.py", .option .analyzersPath none, .plain "an",
        .option .report none, .plain report] := by
    rcases h with rfl | rfl <;> decide +kernel
  rw [Arguments.parse, hpieces]
  rfl

theorem clear_smallTree (bytes : List UInt8) (plugin : Program) :
    (smallTree bytes plugin).Clear := by
  refine .of_entries ?_ ?_ rfl
  · simp [smallTree]
  · simp only [smallTree, List.forall_mem_cons]
    exact ⟨by decide +kernel, by decide +kernel, by decide +kernel, List.forall_mem_nil _⟩

theorem proper_smallTree (bytes : List UInt8) (plugin : Program) :
    (smallTree bytes plugin).Proper := by
  have hplain := (clear_smallTree bytes plugin).toPlain
  exact ⟨fun place name target hlink => absurd hlink (hplain.shown?_ne_link _ target),
    fun place target hlink => absurd hlink (hplain.noLink place target), List.forall_mem_nil _⟩

/-- The directory of the plugin can be searched. -/
theorem searchable_smallTree {bytes : List UInt8} {plugin : Program} :
    (smallTree bytes plugin).Searchable (Path.ofString "/an") := by
  have hclear := clear_smallTree bytes plugin
  have hplace : Path.ofString "/an" = .ofPlace ["an"] := by decide +kernel
  have hfound : (smallTree bytes plugin).locate (.ofPlace ["an"]) = .ok (["an"], .directory) := rfl
  rw [hplace]
  exact hclear.searchable (hclear.hasRoom_ofPlace (by decide)) (FileTree.answers_of_locate hfound)

/-- There is no configuration file in the tree, so the arguments are the configuration. -/
theorem configOf_request (plugin : Program) (report : Option String) :
    configOf (smallTree [] plugin) (request report) =
      .ok (({} : Config).overridden (fieldsOf (request report))) := by
  have hnone : Config.firstFile (smallTree [] plugin)
      (Config.fileNames.map (smallTree [] plugin).workingDirectory.child) = .ok none := by
    with_unfolding_all rfl
  rw [configOf_eq, fileConfigOf, request, Config.discover, hnone]
  rfl

/-- What an alarming plugin says of a file. -/
def alarm (file : String) : Message :=
  { type := .text "t", text := .text "m", code := .text "C1", severity := .error,
    range := .first file }

theorem isWritable_alarm (file : String) :
    AnalyzerMessage.IsWritable { message := alarm file, name := .text "A" } := by
  have hone : (Value.int 1).IsShort := Value.isShort_int_of_lt (n := 1) (by decide +kernel)
  refine { code := ⟨_, rfl⟩, name := ⟨_, rfl⟩, printable := ?_, region := ?_
           text := Value.isShort_text _, shortDescription := ⟨rfl, rfl⟩, helpUri := ⟨rfl, rfl⟩
           fixes := fun f hf => nomatch hf }
  · change (!(isTooLong 1 || isTooLong 0 || (Value.text "C1").isTooLong ||
      (Value.text "m").isTooLong)) = true
    decide +kernel
  · rw [Report.Sarif.Region.toValue]
    refine Report.Sarif.isShort_mappingOf ?_
    simpa [alarm, Report.Sarif.Region.ofRange, Range.first] using hone

theorem remarking_turns (fields : List (String × Json)) (p : Path) :
    ∃ m f, (remarking fields).pluginAt p = .ok m ∧
      (∀ c, f.call c = (Behaviour.emit [.object fields]).run c) ∧
      (∀ kind, f.accepts kind = .ok true) ∧ f.wrapping = .ok () ∧ ∀ source, ∃ origin,
        Registry.moduleTurns m source =
          [.offer
            { function := f, marker := { kind := .cli, name := .text "A" }, source := origin }] :=
  ⟨_, _, rfl, fun _ => rfl, fun _ => rfl, rfl, fun _ => ⟨_, rfl⟩⟩

theorem load_smallTree (plugin : Program) :
    load (smallTree [] plugin) (Path.ofString "/an/x_analyzer.py") =
      plugin.pluginAt (Path.ofString "/an/x_analyzer.py") :=
  Registry.load_of_program (by with_unfolding_all rfl) (by decide +kernel) (by with_unfolding_all rfl)

/-- The plugin of the tree makes one offer, which stops nothing. -/
theorem pluginTurns_alarming : ∃ o : Offer, o.descriptor.IsOrderly ∧
    Registry.pluginTurns (smallTree [] alarming) (Path.ofString "/an/x_analyzer.py") = [.offer o] ∧
      ∀ r : Registry, r.stop? [.offer o] = none := by
  obtain ⟨m, f, hrun, hcall, haccepts, hwrapping, hturns⟩ := remarking_turns [("severity", .text "error")]
    (Path.ofString "/an/x_analyzer.py")
  obtain ⟨origin, hturns⟩ := hturns (some (Path.ofString "/an/x_analyzer.py").toString)
  have hload := (load_smallTree alarming).trans hrun
  refine ⟨_, ⟨⟨_, rfl⟩, fun c ms hexecute n hn => ?_⟩,
    by rw [Registry.pluginTurns, hload]; exact hturns, fun r => ?_⟩
  · have hmessage : Message.ofJson c.file (.object [("severity", .text "error")]) =
        .ok (alarm c.file) := by with_unfolding_all rfl
    have hcalled : f.call c = .ok (.many ([alarm c.file].map .message) none) := by
      rw [hcall, Behaviour.run, List.mapM_cons, Behaviour.itemOf, hmessage]
      rfl
    cases hexecute.symm.trans ((Descriptor.execute_eq_ok_iff _ c [alarm c.file]).mpr hcalled)
    rw [List.mem_singleton.mp hn]
    exact isWritable_alarm c.file
  · have hfailure : Offer.failure? r
        { function := f, marker := { kind := .cli, name := .text "A" }, source := origin } =
        none := by
      unfold Offer.failure?
      split
      next failure hrefusal =>
        simp only [Registry.refusal?, haccepts, Value.requireSearchable, Value.requireKey,
          Value.unsearchable?, Value.unhashable?, Attempt.ok_bind] at hrefusal
        split_ifs at hrefusal <;> cases hrefusal
      next => rfl
      next =>
        rw [hwrapping]
        rfl
    simp [Registry.stop?, Registry.Turn.stop?, hfailure]

/-- Nothing stops a run with an alarming plugin, whether a report is asked for or not. -/
theorem orderly_request {report : Option String} (hreport : report = none ∨ report = some "an") :
    Orderly (smallTree [] alarming) (request report) := by
  have hconfig := configOf_request alarming report
  obtain ⟨offer, horderly, hturns, hquiet⟩ := pluginTurns_alarming
  have hpaths : (({} : Config).overridden (fieldsOf (request report))).analyzerPaths
      (smallTree [] alarming) (smallTree [] alarming).workingDirectory =
      .ok [Path.ofString "/an"] := by
    rcases hreport with rfl | rfl <;> decide +kernel
  have hplugins : ∀ paths, (({} : Config).overridden (fieldsOf (request report))).analyzerPaths
      (smallTree [] alarming) (smallTree [] alarming).workingDirectory = .ok paths →
      pluginsUnder (smallTree [] alarming) paths = [Path.ofString "/an/x_analyzer.py"] := by
    intro paths hfound
    cases hpaths.symm.trans hfound
    decide +kernel
  refine { proper := proper_smallTree [] alarming, loads := ?_, analysis := ?_, paths := ?_
           few := ?_ }
  · intro f hf
    cases hconfig.symm.trans hf
  · intro config hfound
    cases hconfig.symm.trans hfound
    refine { paths := ?_, search := ?_, projects := List.forall_mem_nil _, sources := ?_
             imports := ?_, analyzers := ?_ }
    · have hfield : (({} : Config).overridden (fieldsOf (request report))).get .analyzersPath =
          .tuple [.text "an"] := by
        rcases hreport with rfl | rfl <;> rfl
      intro vs hvs
      cases hfield.symm.trans hvs
      exact List.forall_mem_singleton.mpr (by decide +kernel)
    · intro paths hfound
      cases hpaths.symm.trans hfound
      exact List.forall_mem_singleton.mpr searchable_smallTree
    · rintro _ ⟨⟩
      have hfound : (smallTree [] alarming).locate
          ((smallTree [] alarming).workingDirectory.join (Path.ofString "a.py")) =
          .ok (["a.py"], .file [] none) := by rfl
      exact List.forall_mem_singleton.mpr fun _ _ => FileTree.answers_of_locate hfound
    · intro paths hfound q hq r
      rw [hplugins paths hfound, List.mem_singleton] at hq
      rw [hq, hturns]
      exact hquiet r
    · intro loaded hloaded
      refine isOrderly_of_offers (fun paths hfound q hq o ho => ?_) hloaded
      rw [hplugins paths hfound, List.mem_singleton] at hq
      rw [hq, hturns, List.mem_singleton] at ho
      cases ho
      exact horderly
  · intro config hfound
    cases hconfig.symm.trans hfound
    rintro key (rfl | rfl) <;> rcases hreport with rfl | rfl <;> decide +kernel
  · intro analysis hanalysis
    have hone : (analysisOf (smallTree [] alarming) (request report)).map
        (fun found => found.messages.length) = .ok 1 := by
      rcases hreport with rfl | rfl <;> decide +kernel
    rw [hanalysis] at hone
    have hlength : analysis.messages.length = 1 := Except.ok.inj hone
    rw [hlength]
    decide +kernel

theorem differInReport_request (report other : Option String) :
    DifferInReport (smallTree [] alarming) (request report) (smallTree [] alarming)
      (request other) where
  outline := .refl _
  arguments := ⟨rfl, rfl, rfl, rfl⟩
  loads := Iff.rfl
  configs c d hc hd := by
    cases hc.symm.trans hd
    exact fun _ _ _ _ => rfl
  read _ _ _ _ := rfl

/-! ## The contract -/

/-- What others can count on when a run is over. -/
structure Contract (console : Report.Console) (tree : FileTree Program) (a : Arguments)
    (o : Outcome) : Prop where
  /-- Two stands for a failure of the host while the configuration is loaded or the analysis made. -/
  refused_iff : o.ending.returned? = some 2 ↔
    ∃ f, analysisOf tree a = .error f ∧ f.isHostFailure = true
  /-- Nothing is printed then, and no file is touched. -/
  quiet : o.ending.returned? = some 2 → o.output = "" ∧ o.tree = tree
  /-- Otherwise there was an analysis. One stands for a violation, and its messages are printed. -/
  analyzed : o.ending.returned? ≠ some 2 → ∃ config analysis, configOf tree a = .ok config ∧
    analysisOf tree a = .ok analysis ∧
    o.ending.returned? = some (if ∃ m ∈ analysis.messages, m.severity = .error then 1 else 0) ∧
    o.output = console.printMessages (config.get .verbose).isTrue analysis.messages

theorem Ends.contract {console : Report.Console} {tree : FileTree Program} {a : Arguments}
    {o : Outcome} (h : Ends console tree a o) : Contract console tree a o := by
  cases h with
  | refused f failed host ending output unchanged =>
      have hreturned : o.ending.returned? = some 2 := by
        rw [ending]
        rfl
      exact ⟨iff_of_true hreturned ⟨f, failed, host⟩, fun _ => ⟨output, unchanged⟩,
        fun hnot => absurd hreturned hnot⟩
  | analyzed config analysis loaded found exitCode ending output =>
      have hreturned : o.ending.returned? =
          some (if ∃ m ∈ analysis.messages, m.severity = .error then 1 else 0) := by
        rw [ending, exitCode, ExitCode.ofMessages_some]
        split <;> rfl
      have hnot : o.ending.returned? ≠ some 2 := by
        rw [hreturned]
        split <;> decide
      refine ⟨iff_of_false hnot ?_, fun h => absurd h hnot, fun _ =>
        ⟨config, analysis, loaded, found, hreturned, output⟩⟩
      rintro ⟨f, hf, -⟩
      cases hf.symm.trans found

/-- A plugin that is interrupted when it is loaded. -/
def interrupted : Program := { failure := some (.of "KeyboardInterrupt" "stop") }

/-- A plugin with messages of a column that can be shown, but the next column cannot. -/
def wide : Program :=
  remarking
    [("range", .array [.int 1, .int (Nat.pow 10 Decimal.digitLimit - 1 : Nat), .int 1, .int 1])]

end Assay.Command
