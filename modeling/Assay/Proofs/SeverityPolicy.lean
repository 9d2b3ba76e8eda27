import Assay.Proofs.ProjectRun
import Assay.Proofs.Projects
import Assay.Proofs.ReportLog
import Assay.Report.Console

/-! # Severities on their way to the user

Giving a message the severity that its code is mapped to changes nothing else about it. What is an
error then can be told in four ways: by the codes and severities that messages came with, by the
labels on the console, by the levels in a report and by the exit code. All of them agree.
-/

namespace Assay

/-! ## Giving severities -/

namespace SeverityMappings

/-- The severity that a message ends up with: the one that its code is mapped to, or its own. -/
def severityOf (m : SeverityMappings) (message : Message) : Severity :=
  (m.targetFor message.code).getD message.severity

/-- Whether a message becomes an error, or stays one. -/
def MakesError (m : SeverityMappings) (x : AnalyzerMessage) : Prop :=
  m.targetFor x.code = some .error ∨ m.targetFor x.code = none ∧ x.severity = .error

instance (m : SeverityMappings) : DecidablePred m.MakesError :=
  fun x => inferInstanceAs
    (Decidable (m.targetFor x.code = some .error ∨ m.targetFor x.code = none ∧ x.severity = .error))

variable (m : SeverityMappings)

theorem remapped_eq (x : AnalyzerMessage) :
    m.remapped x = x.withSeverity (m.severityOf x.message) := by
  unfold remapped severityOf AnalyzerMessage.code
  cases m.targetFor x.message.code <;> rfl

theorem applyPlain_eq (message : Message) :
    m.applyPlain message = (Value.requireSearchable message.code).map fun _ =>
      message.withSeverity (m.severityOf message) := by
  unfold applyPlain targetOf severityOf
  cases message.code.requireSearchable with
  | error f => rfl
  | ok _ =>
      simp only [bind, Except.bind, pure, Except.pure, Except.map]
      cases m.targetFor message.code <;> rfl

/-- Messages are treated alike with and without the analyzer that gave them. -/
theorem apply_eq_map (x : AnalyzerMessage) :
    m.apply x = (m.applyPlain x.message).map fun message => { x with message } := by
  rw [apply_eq, applyPlain_eq, remapped_eq, AnalyzerMessage.code]
  cases x.message.code.requireSearchable <;> rfl

theorem severityOf_withSeverity (message : Message) :
    m.severityOf (message.withSeverity (m.severityOf message)) = m.severityOf message := by
  unfold severityOf Message.withSeverity
  cases m.targetFor message.code <;> rfl

theorem message_remapped (x : AnalyzerMessage) :
    (m.remapped x).message = x.message.withSeverity (m.severityOf x.message) := by
  rw [remapped_eq]
  rfl

theorem code_remapped (x : AnalyzerMessage) : (m.remapped x).code = x.code := by
  rw [remapped_eq]
  rfl

theorem remapped_remapped (x : AnalyzerMessage) : m.remapped (m.remapped x) = m.remapped x := by
  rw [m.remapped_eq (m.remapped x), message_remapped, severityOf_withSeverity, remapped_eq]
  rfl

theorem remapAll_of_texts {messages : List AnalyzerMessage} (h : ∀ x ∈ messages, x.code.IsText) :
    remapAll m messages = .ok (messages.map m.remapped) := by
  refine remapAll_of_keys fun x hx => ?_
  obtain ⟨s, hs⟩ := h x hx
  rw [hs]
  rfl

theorem severityOf_eq_error_iff (x : AnalyzerMessage) :
    m.severityOf x.message = .error ↔ m.MakesError x := by
  unfold severityOf MakesError AnalyzerMessage.code AnalyzerMessage.severity
  cases m.targetFor x.message.code <;> simp

theorem applyPlain_text {message : Message} (h : message.code.IsText) :
    m.applyPlain message = .ok (message.withSeverity (m.severityOf message)) := by
  obtain ⟨s, hs⟩ := h
  rw [applyPlain_eq, hs]
  rfl

theorem applyPlain_again {message : Message} (h : message.code.IsText) :
    m.applyPlain (message.withSeverity (m.severityOf message)) =
      .ok (message.withSeverity (m.severityOf message)) := by
  have hcode : (message.withSeverity (m.severityOf message)).code.IsText := h
  rw [m.applyPlain_text hcode, severityOf_withSeverity]
  rfl

/-- One message before and after it is given its severity. -/
structure Remaps (x y : AnalyzerMessage) : Prop where
  applied : m.apply x = .ok y
  /-- Nothing but the severity is changed, -/
  severityOnly : ∃ s, y = x.withSeverity s
  /-- and nothing at all the next time. -/
  again : m.apply y = .ok y
  /-- It does not matter whether the analyzer is put to the message before or afterwards. -/
  wrapped : ∀ name shortDescription helpUri,
    m.apply { message := x.message, name, shortDescription, helpUri } =
      (m.applyPlain x.message).map fun message => { message, name, shortDescription, helpUri }
  plain : m.applyPlain x.message = .ok y.message
  plainAgain : m.applyPlain y.message = .ok y.message

theorem remaps_remapped {x : AnalyzerMessage} (h : x.code.IsText) : m.Remaps x (m.remapped x) := by
  have hplain : m.applyPlain x.message = .ok (m.remapped x).message :=
    m.message_remapped x ▸ m.applyPlain_text h
  have hagain : m.applyPlain (m.remapped x).message = .ok (m.remapped x).message :=
    m.message_remapped x ▸ m.applyPlain_again h
  constructor
  case applied =>
    rw [apply_eq_map, hplain, remapped_eq]
    rfl
  case severityOnly => exact ⟨_, m.remapped_eq x⟩
  case again =>
    rw [apply_eq_map, hagain]
    rfl
  case wrapped => exact fun _ _ _ => m.apply_eq_map _
  case plain => exact hplain
  case plainAgain => exact hagain

end SeverityMappings

/-! ## Labels on the console -/

namespace Report

/-- The line that is printed for a message, if it can be. -/
def line? (x : AnalyzerMessage) : Option String :=
  if isPrintable x then some (formatMessage x) else none

/-- The line for a message with a label in the place of its severity. -/
def lineWith (label : String) (x : AnalyzerMessage) : String :=
  let r := x.message.range
  r.file ++ "(" ++ Json.writeInt r.startLine ++ "," ++ Json.writeInt r.startColumn ++ "): " ++
    label ++ " " ++ x.code.str ++ " - " ++ x.message.text.str

theorem lineWith_inj {a b : String} {x : AnalyzerMessage} (h : lineWith a x = lineWith b x) :
    a = b := by
  simpa [lineWith, String.append_left_inj, String.append_right_inj] using h

theorem label_inj {s t : Severity} (h : s.label = t.label) : s = t := by
  revert h
  cases s <;> cases t <;> decide

/-- A line has the label of its message and no other. -/
theorem line?_eq_lineWith_iff {x : AnalyzerMessage} {s : Severity} :
    line? x = some (lineWith s.label x) ↔ isPrintable x = true ∧ x.severity = s := by
  have hown : formatMessage x = lineWith x.severity.label x := rfl
  unfold line?
  split
  next hprintable =>
    rw [Option.some.injEq, hown]
    exact ⟨fun h => ⟨hprintable, label_inj (lineWith_inj h)⟩, fun h => by rw [h.2]⟩
  next hprintable => simp [hprintable]

theorem line?_eq_error_iff (x : AnalyzerMessage) :
    line? x = some (lineWith "Error" x) ↔ isPrintable x = true ∧ x.severity = .error := by
  have hlabel : "Error" = Severity.error.label := rfl
  rw [hlabel]
  exact line?_eq_lineWith_iff

end Report

/-! ## Levels in a report -/

namespace Report.Sarif

variable {π : Type} {tree : FileTree π} {root : Path}

theorem levelOf_eq_error_iff (s : Severity) : levelOf s = "error" ↔ s = .error := by
  cases s <;> simp [levelOf]

/-- Each result describes its message. -/
theorem collect_describes {rules more : List Rule} {messages : List AnalyzerMessage}
    {results : List Result} (h : collect tree root rules messages = .ok (more, results)) :
    List.Forall₂ (fun m r => r.Describes tree root m) messages results := by
  induction messages generalizing rules results with
  | nil =>
      cases h
      exact .nil
  | cons x rest ih =>
      obtain ⟨_, -, h⟩ := Attempt.of_bind_eq_ok h
      obtain ⟨result, hresult, h⟩ := Attempt.of_bind_eq_ok h
      obtain ⟨⟨others, results'⟩, hrest, h⟩ := Attempt.of_bind_eq_ok h
      cases h
      exact .cons (Result.describes_of_ok hresult).1 (ih hrest)

theorem collect_levels {rules more : List Rule} {messages : List AnalyzerMessage}
    {results : List Result} (h : collect tree root rules messages = .ok (more, results)) :
    results.map Result.level = messages.map fun x => levelOf x.severity := by
  have hdescribes := collect_describes h
  clear h
  induction hdescribes with
  | nil => rfl
  | cons hresult _ ih => rw [List.map_cons, List.map_cons, hresult.level, ih]

theorem sortMessages_perm {messages sorted : List AnalyzerMessage}
    (h : sortMessages messages = .ok sorted) : sorted.Perm messages := by
  unfold sortMessages at h
  split at h
  next hsorted =>
    cases h
    exact Value.sortIfOrdered_perm hsorted
  next => cases h

/-- A report has as many errors as there are among the messages. -/
theorem Log.countP_error {root : Option String} {messages : List AnalyzerMessage} {log : Log}
    (h : Log.ofMessages tree root messages = .ok log) :
    log.results.countP (fun r => r.level = "error") =
      messages.countP fun x => x.severity = .error := by
  obtain ⟨place, -, h⟩ := Attempt.of_bind_eq_ok h
  obtain ⟨sorted, hsorted, h⟩ := Attempt.of_bind_eq_ok h
  obtain ⟨⟨rules, results⟩, hcollect, h⟩ := Attempt.of_bind_eq_ok h
  cases h
  have hlevels := congrArg (List.countP (· = "error")) (collect_levels hcollect)
  rw [List.countP_map, List.countP_map] at hlevels
  simp only [Function.comp_def, levelOf_eq_error_iff] at hlevels
  exact hlevels.trans ((sortMessages_perm hsorted).countP_eq _)

end Report.Sarif

/-! ## Counting errors -/

section

open Report Report.Sarif

namespace SeverityMappings

variable (m : SeverityMappings)

theorem severity_remapped_eq_error_iff (x : AnalyzerMessage) :
    (m.remapped x).severity = .error ↔ m.MakesError x := by
  rw [← m.severityOf_eq_error_iff, AnalyzerMessage.severity, message_remapped]
  rfl

theorem files_remapped (x : AnalyzerMessage) : (m.remapped x).files = x.files := by
  rw [m.remapped_eq]
  rfl

theorem isPrintable_remapped (x : AnalyzerMessage) :
    isPrintable (m.remapped x) = isPrintable x := by
  rw [m.remapped_eq]
  rfl

theorem countP_remapped (messages : List AnalyzerMessage) :
    (messages.map m.remapped).countP (fun y => y.severity = .error) =
      messages.countP fun x => m.MakesError x := by
  rw [List.countP_map]
  exact List.countP_congr fun x _ => by simp [severity_remapped_eq_error_iff]

/-- The lines with the label of errors are those of the messages that become errors. -/
theorem countP_labelled (messages : List AnalyzerMessage) :
    (messages.map m.remapped).countP (fun y => line? y = some (lineWith "Error" y)) =
      messages.countP fun x => isPrintable x && m.MakesError x := by
  rw [List.countP_map]
  refine List.countP_congr fun x _ => ?_
  have hline := line?_eq_error_iff (m.remapped x)
  rw [isPrintable_remapped, severity_remapped_eq_error_iff] at hline
  simpa only [Function.comp_apply, decide_eq_true_eq, Bool.and_eq_true] using hline

/-- A report of messages with their severities has as many errors as messages become errors; there
is one if the code root and all files can be named. -/
structure Reported (messages given : List AnalyzerMessage) {π : Type} (tree : FileTree π)
    (root : Option String) : Prop where
  errors : ∀ log, Log.ofMessages tree root given = .ok log →
    log.results.countP (fun r => r.level = "error") = messages.countP fun x => m.MakesError x
  exists_iff : (∀ x ∈ messages, x.name.IsText) →
    ((∃ log, Log.ofMessages tree root given = .ok log) ↔
      ∃ place, codeRoot tree root = .ok place ∧
        ∀ x ∈ messages, ∀ file ∈ x.files, ∃ uri, artifactUri tree place file = .ok uri)

theorem reported_remapped {messages : List AnalyzerMessage}
    (hcodes : ∀ x ∈ messages, x.code.IsText) {π : Type} (tree : FileTree π)
    (root : Option String) : m.Reported messages (messages.map m.remapped) tree root := by
  constructor
  case errors => exact fun log hlog => (Log.countP_error hlog).trans (m.countP_remapped messages)
  case exists_iff =>
    intro hnames
    have hnamed : ∀ y ∈ messages.map m.remapped, y.IsNamed := by
      intro y hy
      obtain ⟨x, hx, rfl⟩ := List.mem_map.mp hy
      rw [m.remapped_eq]
      exact ⟨hcodes x hx, hnames x hx⟩
    rw [Log.ofMessages_isOk_iff hnamed]
    simp only [List.forall_mem_map, files_remapped]

/-- What there is to say about messages and the same messages with their severities. -/
structure Agrees (messages given : List AnalyzerMessage) : Prop where
  remaps : List.Forall₂ m.Remaps messages given
  again : remapAll m given = .ok given
  severities : given.countP (fun y => y.severity = .error) =
    messages.countP fun x => m.MakesError x
  reported : ∀ {π : Type} (tree : FileTree π) (root : Option String),
    m.Reported messages given tree root
  labelled : given.countP (fun y => line? y = some (lineWith "Error" y)) =
    messages.countP fun x => isPrintable x && m.MakesError x
  /-- On the console too no error is missing, unless a line cannot be printed. -/
  allLabelled : (∀ x ∈ messages, isPrintable x = true) →
    given.countP (fun y => line? y = some (lineWith "Error" y)) =
      messages.countP fun x => m.MakesError x
  exitCode : ExitCode.ofMessages (some given) =
    if 0 < messages.countP (fun x => m.MakesError x) then .violation else .success

/-- However severities are given, even if a code is listed for several, errors are counted alike by
their codes, on the console, in the report and by the exit code. -/
theorem remapAll_agrees (messages : List AnalyzerMessage)
    (hcodes : ∀ x ∈ messages, x.code.IsText) :
    ∃ given, remapAll m messages = .ok given ∧ m.Agrees messages given := by
  refine ⟨messages.map m.remapped, m.remapAll_of_texts hcodes, ?_⟩
  constructor
  case remaps =>
    rw [List.forall₂_map_right_iff, List.forall₂_same]
    exact fun x hx => m.remaps_remapped (hcodes x hx)
  case again =>
    have hgiven : ∀ y ∈ messages.map m.remapped, y.code.IsText := by
      simpa only [List.forall_mem_map, code_remapped] using hcodes
    rw [m.remapAll_of_texts hgiven, List.map_map]
    exact congrArg Except.ok (List.map_congr_left fun x _ => m.remapped_remapped x)
  case severities => exact m.countP_remapped messages
  case reported => exact m.reported_remapped hcodes
  case labelled => exact m.countP_labelled messages
  case allLabelled =>
    intro hprintable
    rw [countP_labelled]
    exact List.countP_congr fun x hx => by simp [hprintable x hx]
  case exitCode =>
    rw [ExitCode.ofMessages_some, ← m.countP_remapped messages]
    simp only [List.countP_pos_iff, decide_eq_true_eq]

/-- Four messages and a code that is listed twice, which counts for the first severity. -/
theorem remapAll_agrees_overlapping :
    let m : SeverityMappings :=
      { info := [.text "C1"], warning := [.text "C3"], error := [.text "C1", .text "C2"] }
    let message (code : String) (severity : Severity) : AnalyzerMessage :=
      { message := { type := .text "t", text := .text "m", code := .text code, severity
                     range := ⟨"a.py", 1, 0, 1, 1⟩ }
        name := .text "A" }
    let messages :=
      [message "C1" .error, message "C2" .hint, message "C3" .error, message "C4" .error]
    (∀ x ∈ messages, x.code.IsText) ∧
      ∃ given, remapAll m messages = .ok given ∧ m.Agrees messages given ∧
        given.countP (fun y => line? y = some (lineWith "Error" y)) = 2 ∧
        ExitCode.ofMessages (some given) = .violation := by
  intro m message messages
  have hcodes : ∀ x ∈ messages, x.code.IsText := by
    simp only [messages, List.forall_mem_cons]
    exact ⟨⟨_, rfl⟩, ⟨_, rfl⟩, ⟨_, rfl⟩, ⟨_, rfl⟩, fun _ h => absurd h List.not_mem_nil⟩
  have herrors : messages.countP (fun x => m.MakesError x) = 2 := by decide +kernel
  have hprintable : ∀ x ∈ messages, isPrintable x = true := by decide +kernel
  obtain ⟨given, hgiven, hagrees⟩ := m.remapAll_agrees messages hcodes
  refine ⟨hcodes, given, hgiven, hagrees, (hagrees.allLabelled hprintable).trans herrors, ?_⟩
  rw [hagrees.exitCode, herrors]
  rfl

/-- Errors are not counted alike if there is no report of them, since two analyzers cannot be told
apart by order or a file leads to itself, or if one has a line that is too long to be written. -/
theorem remapAll_disagrees :
    let message (name : Value) (file : String) (line : Int) : AnalyzerMessage :=
      { message := { type := .text "t", text := .text "m", code := .text "C1", severity := .error
                     range := ⟨file, line, 0, line, 1⟩ }
        name }
    let tied := [message (.text "A") "a.py" 1, message (.int 5) "a.py" 1]
    let looped := [message (.text "A") "/l.py" 1]
    let long := [message (.text "A") "a.py" (Int.pow 10 4300)]
    let tree : FileTree Unit := { entries := [(["l.py"], .link "l.py")] }
    (∀ messages ∈ [tied, looped, long], remapAll {} messages = .ok messages ∧
      ∀ x ∈ messages, x.code.IsText ∧ x.severity = .error) ∧
      (∀ messages ∈ [tied, looped], ¬ ∃ log, Log.ofMessages tree none messages = .ok log) ∧
      long.countP (fun y => line? y = some (lineWith "Error" y)) = 0 := by
  intro message tied looped long tree
  have hmessage : ∀ name file line,
      (message name file line).code.IsText ∧ (message name file line).severity = .error :=
    fun _ _ _ => ⟨⟨_, rfl⟩, rfl⟩
  refine ⟨?given, ?unreported, ?unprinted⟩
  case given =>
    simp only [List.forall_mem_cons, List.not_mem_nil, false_implies, implies_true, and_true,
      tied, looped, long, hmessage]
    exact ⟨rfl, rfl, rfl⟩
  case unreported =>
    refine List.forall_mem_cons.mpr ⟨?_, List.forall_mem_singleton.mpr ?_⟩
    · rintro ⟨log, hlog⟩
      have hbefore : before (message (.int 5) "a.py" 1) (message (.text "A") "a.py" 1) =
          .error "'<' not supported between instances of 'int' and 'str'" := by decide +kernel
      have hsort : sortMessages tied =
          .error (.type "'<' not supported between instances of 'int' and 'str'") := by
        simp only [sortMessages, tied, Value.sortIfOrdered, Value.firstRun, hbefore, bind,
          Except.bind]
      rw [Log.ofMessages, hsort] at hlog
      cases hlog
    · have hnamed : ∀ x ∈ looped, x.IsNamed := List.forall_mem_singleton.mpr ⟨⟨_, rfl⟩, _, rfl⟩
      rw [Log.ofMessages_isOk_iff hnamed]
      rintro ⟨place, hplace, huris⟩
      cases hplace
      obtain ⟨uri, huri⟩ := huris _ List.mem_cons_self "/l.py" List.mem_cons_self
      have hloop : artifactUri tree tree.workingDirectory "/l.py" =
          .error (.of "RuntimeError" ("Symlink loop from " ++ Text.quoted "/l.py")) := by
        decide +kernel
      cases hloop.symm.trans huri
  case unprinted => decide +kernel

end SeverityMappings

end

end Assay
