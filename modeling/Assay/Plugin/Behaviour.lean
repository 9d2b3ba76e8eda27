import Assay.Message.Description
import Assay.Plugin.Function

/-!
# What analyzers do

The analyzers of described plugins do one of a few things: they give messages that stand in the
description, report what they find in a context, return a value, or fail.
-/

namespace Assay.Plugin

open Check

/-- What an analyzer does when it is called. -/
inductive Behaviour where
  | emit (items : List Json)
  | giveBack (value : Value)
  | fail (failure : Failure)
  | unusedValues
  | fileUses (code : Value)
  | projectUses (code : Value)
  | entities (code : Value) (publicOnly : Bool)
  | declarations (code : Value)
  | parseState (code : Value)

namespace Behaviour

/-- A message of an analyzer. -/
def report (code : Value) (severity : Severity) (text : String) (range : Range) : Message :=
  { type := .text "t", text := .text text, code, severity, range }

/-- The item that a JSON value in a description stands for: objects describe messages. -/
def itemOf (file : String) : Json → Except Failure Item
  | .object fields => do return .message (← Message.ofJson file (.object fields))
  | j => return .value (Value.ofJson j)

/-- The messages for local values that are set and never used. -/
def unusedIn (uses : List SymbolUse) : List Message :=
  let isUnused (u : SymbolUse) : Bool :=
    u.isDefinition && u.scope = .local &&
      !(uses.any fun v => !v.isDefinition && v.name == u.name)
  (uses.filter isUnused).map fun u =>
    let name := u.name
    { type := .text "Unused value", text := .text s!"'{name}' is assigned but never used"
      code := .text "FS001", severity := .hint, range := u.range }

/-- The message for a use in a file. -/
def useMessage (code : Value) (u : SymbolUse) : Message :=
  let role := if u.isDefinition then "def" else "use"
  report code .warning (u.name ++ ":" ++ u.scope.word ++ ":" ++ role) u.range

/-- What a behaviour returns for a context. -/
def run (b : Behaviour) (c : Context) : Except Failure Returned :=
  let all (ms : List Message) : Except Failure Returned := .ok (.many (ms.map .message) none)
  match b with
  | emit items => do return .many (← items.mapM (itemOf c.file)) none
  | giveBack v => .ok (.ofValue v)
  | fail f => .error f
  | unusedValues => all (unusedIn c.fileUses)
  | fileUses code => all (c.fileUses.map (useMessage code))
  | projectUses code => all (c.projectUses.map fun u =>
      report code .info (u.name ++ ":" ++ u.scope.word) u.range)
  | entities code publicOnly => all ((c.entities publicOnly).map fun e =>
      report code .info (e.kind.word ++ " " ++ e.fullName) e.range)
  | declarations code => match c.tree with
    | some tree => all (tree.walk.map fun d =>
        report code .hint (d.kind.word ++ " " ++ d.name) d.range)
    | none => .error (.of "AttributeError" "'NoneType' object has no attribute 'walk'")
  | parseState code =>
      let state := match c.parse with
        | none => "none"
        | some p => if p.hadErrors then "errors" else "ok"
      all [report code .warning state (.first c.file)]

/-- What a behaviour returns if it is awaited: ending an iteration is a failure of its own there. -/
def runAwaited (b : Behaviour) (c : Context) : Except Failure Returned :=
  match b.run c with
  | .error f =>
      if f.kind == "StopIteration" then .error (.of "RuntimeError" "coroutine raised StopIteration")
      else .error f
  | result => result

end Behaviour

end Assay.Plugin
