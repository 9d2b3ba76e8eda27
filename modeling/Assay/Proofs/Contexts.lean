import Assay.Check.Context
import Assay.Proofs.Checker

/-! # Contexts for both hosts

For the command line a text goes through all phases or none; for an editor each phase goes as far as
it can. Both hosts find the same in a text that can be checked. One that cannot be is refused for the
command line, and in an editor nothing is known of its symbols. Neither host gets anything out of a
text that is nested too deeply to be gone through, and a failure to go through it is not caught: an
editor gets no context of such a text.
-/

namespace Assay.Check

open Source

/-! ## Phases -/

theorem hadErrors_parseFile (file source : String) :
    (parseFile file source).hadErrors = (parseFile file source).tree.isNone := by
  unfold parseFile ParseResults.hadErrors
  split <;> rfl

/-- A file goes through all phases if its symbols can be collected: that takes its tree, and the
tree is all that its declarations need. -/
theorem checkAll_value (file source : String) :
    (checkAll file source).value =
      (checkFile (parseFile file source)).value.bind fun check =>
        (declarationTree (parseFile file source)).map fun tree =>
          { file, source, parse := parseFile file source, check, tree } := by
  have herrors := hadErrors_parseFile file source
  unfold checkAll
  cases htree : (parseFile file source).tree with
  | none => simp [checkFile, herrors, htree]
  | some tree =>
      have hdeclarations : declarationTree (parseFile file source) =
          some { file := (parseFile file source).file,
                 declarations := declarationsOf (parseFile file source).file false tree.body } := by
        rw [declarationTree, htree, Option.map_some]
      rw [htree, Option.isNone_some] at herrors
      cases hcheck : (checkFile (parseFile file source)).value with
      | none => simp [herrors, hcheck]
      | some check => simp [herrors, hcheck, hdeclarations]

theorem declarationTree_isSome_of_checkFile {p : ParseResults} {check : CheckResults}
    (h : (checkFile p).value = some check) : (declarationTree p).isSome := by
  unfold checkFile at h
  rw [declarationTree, Option.isSome_map]
  cases htree : p.tree with
  | none => simp [htree] at h
  | some tree => rfl

theorem checkAll_eq_none_iff (file source : String) :
    (checkAll file source).value = none ↔ (checkFile (parseFile file source)).value = none := by
  rw [checkAll_value]
  cases hcheck : (checkFile (parseFile file source)).value with
  | none => simp
  | some check =>
      obtain ⟨tree, htree⟩ :=
        Option.isSome_iff_exists.mp (declarationTree_isSome_of_checkFile hcheck)
      simp [htree]

/-! ## Room -/

namespace CallStack

variable {stack : CallStack} {fewer calls : Nat} {p : ParseResults}

/-- There is room for a parsed file while some calls are open. What is not gone through needs none. -/
def Admits (stack : CallStack) (calls : Nat) (p : ParseResults) : Prop :=
  ∀ m, p.tree = some m → (Scope.ofModule m).isOk = true → stack.hasRoom calls m = true

theorem Admits.mono (h : stack.Admits calls p) (hle : fewer ≤ calls) : stack.Admits fewer p :=
  fun m htree hscopes => stack.antitone hle (h m htree hscopes)

theorem Admits.require (h : stack.Admits calls p) : stack.require calls p = .ok () := by
  unfold CallStack.require
  cases htree : p.tree with
  | none => rfl
  | some m =>
      cases hscopes : (Scope.ofModule m).isOk with
      | false => simp [hscopes]
      | true => simp [h m htree hscopes]

/-- Without room the failure is the one of calls that are nested too deeply. -/
theorem require_of_not_admits (h : ¬ stack.Admits calls p) :
    stack.require calls p = .error overflow := by
  simp only [Admits, Classical.not_forall] at h
  obtain ⟨m, htree, hscopes, hroom⟩ := h
  simp [CallStack.require, htree, hscopes, hroom]

/-- Only what can be checked needs room. -/
theorem exists_check_of_not_admits (h : ¬ stack.Admits calls p) :
    ∃ check, (checkFile p).value = some check := by
  simp only [Admits, Classical.not_forall] at h
  obtain ⟨m, htree, hscopes, _⟩ := h
  obtain ⟨scopes, hscopes⟩ : ∃ scopes, Scope.ofModule m = .ok scopes := by
    cases hof : Scope.ofModule m with
    | ok scopes => exact ⟨scopes, rfl⟩
    | error problem => simp [hof, Except.isOk, Except.toBool] at hscopes
  simp [checkFile, htree, hscopes]

end CallStack

namespace Context

/-! ## The command line -/

/-- The text of a checked file is its own project. A text that cannot be checked is refused. -/
theorem ofSource_outcome {stack : CallStack} {source file : String}
    (hroom : stack.Admits callsForSource (parseFile file source)) :
    (∃ checked, (checkAll file source).value = some checked ∧
        Attempt.outcome (ofSource stack source file) =
          .ok (ofChecked { files := [checked.check] } checked)) ∨
      (checkAll file source).value = none ∧
        ∃ text, Attempt.outcome (ofSource stack source file) = .error (.context text) := by
  obtain ⟨hvalue, _⟩ := Checker.faithful_empty.typeCheck file file source
  unfold ofSource
  rw [hroom.require, Attempt.outcome_bind, Attempt.outcome_ofExcept, Attempt.ok_bind,
    Attempt.outcome_bind, Attempt.outcome_ofLogged, Attempt.ok_bind]
  cases hchecked : (checkAll file source).value with
  | none =>
      rw [hchecked] at hvalue
      refine .inr ⟨rfl, ?_⟩
      simp only [hvalue, Attempt.outcome_throw]
      exact ⟨_, rfl⟩
  | some checked =>
      rw [hchecked] at hvalue
      refine .inl ⟨checked, rfl, ?_⟩
      simp only [hvalue, Attempt.outcome_pure]

/-! ## The editor -/

/-- What an editor knows of a text, with the project that it belongs to. -/
theorem forEditor_value (file source : String) (project : Option ProjectResults) :
    (forEditor file (some source) project).value =
      { kind := .editor, file, source, parse := parseFile file source
        check := (checkFile (parseFile file source)).value
        tree := declarationTree (parseFile file source), project } := rfl

/-- A text in an editor is its own project if anything can be collected in it. -/
theorem ofEditorSource_some (stack : CallStack) (source file : String) :
    ofEditorSource stack (some source) file =
      Attempt.ofExcept (stack.require callsForEditor (parseFile file source)) >>= fun _ =>
        Attempt.ofLogged (forEditor file (some source) none) >>= fun context =>
          match context.check with
          | none => pure context
          | some check => Attempt.ofLogged (forEditor file source (some { files := [check] })) :=
  rfl

/-- The project of a text in an editor is made of what is collected in it. -/
theorem ofEditorSource_outcome {stack : CallStack} {source file : String}
    (hroom : stack.Admits callsForEditor (parseFile file source)) :
    Attempt.outcome (ofEditorSource stack (some source) file) =
      .ok (forEditor file (some source) ((checkFile (parseFile file source)).value.map
        fun check => { files := [check] })).value := by
  rw [ofEditorSource_some, hroom.require, Attempt.outcome_bind, Attempt.outcome_ofExcept, Attempt.ok_bind,
    Attempt.outcome_bind, Attempt.outcome_ofLogged, Attempt.ok_bind]
  simp only [forEditor_value]
  cases hcheck : (checkFile (parseFile file source)).value with
  | none => simp [Attempt.outcome_pure]
  | some check => simp [Attempt.outcome_ofLogged, forEditor_value, hcheck]

/-- Without room neither host gets a context. -/
theorem ofSource_overflow {stack : CallStack} {source file : String}
    (hroom : ¬ stack.Admits callsForSource (parseFile file source)) :
    Attempt.outcome (ofSource stack source file) = .error CallStack.overflow := by
  unfold ofSource
  rw [CallStack.require_of_not_admits hroom, Attempt.outcome_bind, Attempt.outcome_ofExcept]
  rfl

theorem ofEditorSource_overflow {stack : CallStack} {source file : String}
    (hroom : ¬ stack.Admits callsForEditor (parseFile file source)) :
    Attempt.outcome (ofEditorSource stack (some source) file) = .error CallStack.overflow := by
  rw [ofEditorSource_some, CallStack.require_of_not_admits hroom, Attempt.outcome_bind, Attempt.outcome_ofExcept]
  rfl

/-! ## Both hosts -/

/-- A context with nothing missing. -/
structure Complete (c : Context) : Prop where
  source : c.source.isSome
  parse : c.parse.isSome
  check : c.check.isSome
  tree : c.tree.isSome
  project : c.project.isSome

/-- Two contexts answer all questions alike. -/
structure AnswerAlike (c d : Context) : Prop where
  entities : ∀ publicOnly, c.entities publicOnly = d.entities publicOnly
  fileUses : c.fileUses = d.fileUses
  projectUses : c.projectUses = d.projectUses

/-- A context in which all questions have empty answers. -/
structure Unanswering (c : Context) : Prop where
  entities : ∀ publicOnly, c.entities publicOnly = []
  fileUses : c.fileUses = []
  projectUses : c.projectUses = []

/-- What the command line makes of a text agrees with its context in an editor. -/
structure HostsAgree (cli : Except Failure Context) (editor : Context) : Prop where
  refused_iff : (∃ f, cli = .error f ∧ f.kind = "ContextCreationError") ↔ editor.check = none
  refused : ∀ f, cli = .error f → f.kind = "ContextCreationError" ∧ editor.Unanswering
  given : ∀ c, cli = .ok c → c.kind = .cli ∧ c.Complete ∧ c.file = editor.file ∧
    c.source = editor.source ∧ c.parse = editor.parse ∧ c.check = editor.check ∧
    c.tree = editor.tree ∧ c.project = editor.project ∧ c.AnswerAlike editor

/-- How what the command line makes of a text compares with what an editor gets of it, by the room
that there is for the text. -/
inductive Compared (stack : CallStack) (p : ParseResults) :
    Except Failure Context → Except Failure Context → Prop
  /-- There is room for both. -/
  | agreeing {cli : Except Failure Context} {editor : Context}
      (room : stack.Admits callsForSource p) (agree : HostsAgree cli editor) :
      Compared stack p cli (.ok editor)
  /-- There is room for an editor, where fewer calls are open, and not for the command line. -/
  | deep {editor : Context} (room : stack.Admits callsForEditor p)
      (noRoom : ¬ stack.Admits callsForSource p) (complete : editor.Complete) :
      Compared stack p (.error CallStack.overflow) (.ok editor)
  /-- There is room for neither. -/
  | tooDeep (noRoom : ¬ stack.Admits callsForEditor p) :
      Compared stack p (.error CallStack.overflow) (.error CallStack.overflow)

/-- With room for a text, what the command line makes of it agrees with what is known of it in an
editor. -/
theorem hostsAgree_of_admits {stack : CallStack} {source file : String}
    (hroom : stack.Admits callsForSource (parseFile file source)) :
    HostsAgree (Attempt.outcome (ofSource stack source file))
      (forEditor file (some source) ((checkFile (parseFile file source)).value.map
        fun check => { files := [check] })).value := by
  rw [forEditor_value]
  rcases ofSource_outcome hroom with ⟨checked, hvalue, hok⟩ | ⟨hvalue, text, herror⟩
  · rw [checkAll_value] at hvalue
    obtain ⟨check, hcheck, hvalue⟩ := Option.bind_eq_some_iff.mp hvalue
    obtain ⟨tree, htree, rfl⟩ := Option.map_eq_some_iff.mp hvalue
    rw [hok, hcheck, htree]
    constructor
    case refused_iff =>
      constructor
      · rintro ⟨f, hf, _⟩
        cases hf
      · exact fun hnone => nomatch hnone
    case refused => exact fun f hf => nomatch hf
    case given =>
      rintro c ⟨rfl⟩
      exact ⟨rfl, ⟨rfl, rfl, rfl, rfl, rfl⟩, rfl, rfl, rfl, rfl, rfl, rfl, fun _ => rfl, rfl, rfl⟩
  · rw [herror, (checkAll_eq_none_iff file source).mp hvalue]
    constructor
    case refused_iff => exact ⟨fun _ => rfl, fun _ => ⟨_, rfl, rfl⟩⟩
    case refused =>
      rintro f ⟨rfl⟩
      exact ⟨rfl, fun _ => rfl, rfl, rfl⟩
    case given => exact fun c hc => nomatch hc

/-- For every text an editor gets a context that agrees with what the command line makes of it: the
same results if the text can be checked, otherwise a refusal there and no answers here. The
exception are the texts that are nested too deeply: of these an editor gets a context only where
just the command line has no room for them. -/
theorem ofSource_agrees (stack : CallStack) (source file : String) :
    Compared stack (parseFile file source) (Attempt.outcome (ofSource stack source file))
      (Attempt.outcome (ofEditorSource stack (some source) file)) := by
  by_cases hcli : stack.Admits callsForSource (parseFile file source)
  · have heditor : stack.Admits callsForEditor (parseFile file source) := hcli.mono (by decide)
    rw [ofEditorSource_outcome heditor]
    exact .agreeing hcli (hostsAgree_of_admits hcli)
  · rw [ofSource_overflow hcli]
    by_cases heditor : stack.Admits callsForEditor (parseFile file source)
    · rw [ofEditorSource_outcome heditor, forEditor_value]
      obtain ⟨check, hcheck⟩ := CallStack.exists_check_of_not_admits hcli
      have htree := declarationTree_isSome_of_checkFile hcheck
      rw [hcheck]
      exact .deep heditor hcli ⟨rfl, rfl, rfl, htree, rfl⟩
    · rw [ofEditorSource_overflow heditor]
      exact .tooDeep heditor

/-- A text whose names make no sense has declarations in an editor, and is refused all the same. -/
example :
    let editor := Attempt.outcome (ofEditorSource (.ofLimit 20) (some "def f(x, x): pass\n") "a.py")
    (editor.toOption.map fun c => (c.tree.isSome, c.check.isSome)) = some (true, false) ∧
      (Attempt.outcome (ofSource (.ofLimit 20) "def f(x, x): pass\n" "a.py")).toOption.isNone := by
  decide +kernel

/-- A text that can be parsed, and is nested too deeply to be gone through, has no context. -/
example : (Attempt.outcome (ofEditorSource (.ofLimit 10) (some "x = 1 + 1 + 1 + 1\n") "a.py")).toOption
    = none := by
  decide +kernel

end Context

end Assay.Check
