import Assay.Proofs.Checker

/-! # Memory that does not show

A checker can be asked about files and projects any number of times, while texts change, fail and
come back. What a caller sees of each call, the answer and the log, is what a checker that was never
asked before would show.
-/

namespace Assay.Check

variable {π : Type}

/-! ## One call -/

namespace Checker.Faithful

variable {c d : Checker}

/-- Two checkers that remember different things log the same about a file. -/
theorem typeCheck_log (hc : c.Faithful) (hd : d.Faithful) (project file source : String) :
    (c.typeCheck project file source).log = (d.typeCheck project file source).log := by
  obtain ⟨hvalue, hlog, _⟩ := hc.check file source
  obtain ⟨hvalue', hlog', _⟩ := hd.check file source
  simp only [Checker.typeCheck, Logged.log_bind, hvalue, hlog, hvalue', hlog']
  cases (checkAll file source).value <;> rfl

/-- Two checkers that remember different things log the same about the files of a project. Each of
them goes on with what it has remembered on the way. -/
theorem checkSources_log (hc : c.Faithful) (hd : d.Faithful) (tree : FileTree π)
    (files : List String) :
    (Checker.checkSources tree c files).log = (Checker.checkSources tree d files).log := by
  induction files generalizing c d with
  | nil => rfl
  | cons file rest ih =>
      unfold Checker.checkSources
      cases tree.readText (Path.ofString file) with
      | error f =>
          cases hexpected : f.isReadFailure with
          | false => simp [hexpected]
          | true => simp [hexpected, ih hc hd]
      | ok source =>
          obtain ⟨_, hlog, hnext⟩ := hc.check file source
          obtain ⟨_, hlog', hnext'⟩ := hd.check file source
          have hrest := ih hnext hnext'
          simp [hlog, hlog', hrest]

end Checker.Faithful

/-- What a call of a checker returns. -/
inductive Checker.Answer where
  | file (checked : Option CheckedFile)
  | project (results : Except Failure ProjectResults)

namespace Checker.Call

/-- What a caller sees of a call: the answer, and the log on the way to it. -/
def seen (c : Checker) : Checker.Call π → Logged Checker.Answer
  | .typeCheck project file source =>
      let checked := c.typeCheck project file source
      { value := .file checked.value.1, log := checked.log }
  | .checkProject tree options =>
      let checked := c.checkProject tree options
      { value := .project checked.value.1, log := checked.log }

/-- What a checker remembers is not seen in a call. -/
theorem seen_eq_of_faithful {c d : Checker} (hc : c.Faithful) (hd : d.Faithful)
    (call : Checker.Call π) : call.seen c = call.seen d := by
  cases call with
  | typeCheck project file source =>
      have hvalue := (hc.typeCheck project file source).1
      have hvalue' := (hd.typeCheck project file source).1
      simp only [seen, hvalue, hvalue', hc.typeCheck_log hd]
  | checkProject tree options =>
      have hvalue := (hc.checkSources tree options.sources).1
      have hvalue' := (hd.checkSources tree options.sources).1
      simp only [seen, Checker.checkProject, hvalue, hvalue', hc.checkSources_log hd]

/-! ## Whole histories -/

/-- What is seen of calls one after the other, each made on the checker that the one before it has
left behind. -/
def allSeen (c : Checker) : List (Checker.Call π) → List (Logged Checker.Answer)
  | [] => []
  | call :: rest => call.seen c :: allSeen (call.perform c) rest

/-- Each call on one checker is seen as the same call on a new checker. -/
theorem allSeen_eq_fresh (calls : List (Checker.Call π)) :
    allSeen {} calls = calls.map (seen {}) := by
  -- a checker in the middle of its history is not new, but it is faithful
  have hrun : ∀ c : Checker, c.Faithful → allSeen c calls = calls.map (seen {}) := by
    induction calls with
    | nil => exact fun c hc => rfl
    | cons call rest ih =>
        intro c hc
        rw [allSeen, List.map_cons, seen_eq_of_faithful hc faithful_empty call,
          ih (call.perform c) (hc.perform call)]
  exact hrun {} faithful_empty

end Checker.Call

end Assay.Check
