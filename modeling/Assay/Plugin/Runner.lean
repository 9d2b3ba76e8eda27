import Assay.Logged
import Assay.Message.Result
import Assay.Plugin.Function
import Assay.Value.Items
import Assay.Value.Order

/-!
# Running analyzers

All analyzers are called with the same context: they are submitted at once, in the order of their
names, and finish in any order. What one of them does wrong stays with it: it gives a failure in the
place of messages, and the others are not touched.
-/

namespace Assay.Plugin

open Check

/-- An analyzer that was registered. -/
structure Descriptor where
  name : Value
  kind : HostKind
  source : Option String := none
  shortDescription : Value := .none
  helpUri : Value := .none
  call : Context → Except Failure Returned

namespace Descriptor

/-- Call an analyzer; everything it returns must be messages. -/
def execute (d : Descriptor) (c : Context) : Except Failure (List Message) := do
  Returned.messages d.name (← d.call c)

/-- A message of an analyzer, with what the analyzer says of itself. -/
def tag (d : Descriptor) (m : Message) : AnalyzerMessage :=
  { message := m, name := d.name, shortDescription := d.shortDescription, helpUri := d.helpUri }

/-- The result of an analyzer that has ended. A failure is logged. -/
def resultOf (d : Descriptor) (c : Context) (outcome : Except Failure (List Message)) :
    Logged AnalysisResult := do
  match outcome with
  | .error f =>
      let file := c.file
      Logged.note .debug ("Analyzer " ++ d.name.shown ++ s!" failed on {file}: " ++ f.shown)
  | .ok _ => pure ()
  return { name := d.name, outcome }

end Descriptor

/-! ## Names -/

/-- Sort analyzers by their names, which must have an order. -/
def sortByName (ds : List Descriptor) : Except Failure (List Descriptor) :=
  (Value.sortIfOrdered (fun d e => Value.less d.name e.name) ds).mapError Failure.type

/-- Put an analyzer in the place of the one with its name, or at the end. -/
def putByName (d : Descriptor) : List (Value × Descriptor) → List (Value × Descriptor)
  | [] => [(d.name, d)]
  | e :: rest => if e.1.same d.name then (e.1, d) :: rest else e :: putByName d rest

/-- One analyzer for each name, the last one in the place of the first. The names must be fit to be
keys. -/
def byName (ds : List Descriptor) : Except Failure (List Descriptor) := do
  ds.forM fun d => d.name.requireKey
  return (ds.foldl (fun done d => putByName d done) []).map (·.2)

/-! ## Fan-out -/

/-- What an analyzer that was submitted has ended with, once it has finished. -/
abbrev Future := Option (Except Failure (List Message))

/-- The analyzer at a place finishes, and its outcome stands in its own future. -/
def finish (ordered : List Descriptor) (c : Context) (futures : List Future) (place : Nat) :
    List Future :=
  match ordered[place]? with
  | some d => futures.set place (some (d.execute c))
  | none => futures

/-- Submit all analyzers at once; those at some places finish, in this order. -/
def fanOut (ordered : List Descriptor) (c : Context) (completion : List Nat) : List Future :=
  completion.foldl (finish ordered c) (ordered.map fun _ => none)

/-- The results of analyzers in the order in which they were submitted. One that has not finished is
waited for. -/
def resultsOf (c : Context) : List (Descriptor × Future) → Logged (List AnalysisResult)
  | [] => return []
  | (d, future) :: rest => do
      let r ← d.resultOf c (future.getD (d.execute c))
      return r :: (← resultsOf c rest)

/-- Whether so many workers can be asked for: the number can be left open, but it is not negative. -/
def checkWorkers (workers : Option Int) : Except Failure Unit :=
  match workers with
  | some n => if n < 0 then .error (.value "max_workers must be greater than 0") else .ok ()
  | none => .ok ()

/-- The results of analyzers in order. Without analyzers the number of workers does not matter. -/
def runOrdered (ordered : List Descriptor) (c : Context) (workers : Option Int)
    (completion : List Nat) : Attempt (List AnalysisResult) := do
  if ordered.isEmpty then return []
  Attempt.ofExcept (checkWorkers workers)
  Attempt.ofLogged (resultsOf c (ordered.zip (fanOut ordered c completion)))

/-- The results of all analyzers for a context, in the order of their names. They may finish in any
order. -/
def runSafely (ds : List Descriptor) (c : Context) (workers : Option Int := none)
    (completion : List Nat := List.range ds.length) : Attempt (List AnalysisResult) := do
  runOrdered (← Attempt.ofExcept (sortByName ds)) c workers completion

/-- The messages of a result with their analyzer. An analyzer that failed is logged and gives none. -/
def messagesOf (c : Context) (d : Descriptor) (r : AnalysisResult) :
    Logged (List AnalyzerMessage) := do
  match r.outcome with
  | .ok messages => return messages.map d.tag
  | .error f =>
      let file := c.file
      Logged.note .error
        ("Analyzer " ++ d.name.shown ++ s!" raised an exception on {file}; skipped") (some f)
      return []

/-- The messages of results with their analyzers, one after the other. -/
def messagesOfAll (c : Context) : List (Descriptor × AnalysisResult) →
    Logged (List AnalyzerMessage)
  | [] => return []
  | (d, r) :: rest => do
      let messages ← messagesOf c d r
      return messages ++ (← messagesOfAll c rest)

/-- The messages of all analyzers for a context, in the order of their names; of analyzers with equal
names only the last one is called. They may finish in any order. -/
def runAll (ds : List Descriptor) (c : Context) (workers : Option Int := none)
    (completion : List Nat := List.range ds.length) : Attempt (List AnalyzerMessage) := do
  let kept ← Attempt.ofExcept (sortByName ds >>= byName)
  let ordered ← Attempt.ofExcept (sortByName kept)
  let results ← runOrdered ordered c workers completion
  Attempt.ofLogged (messagesOfAll c (ordered.zip results))

end Assay.Plugin
