import Assay.Message.Basic
import Assay.Plugin.Annotation.Basic
import Assay.Plugin.Parameter
import Assay.Value.Items

/-!
# Analyzer functions

A function that a plugin defines can carry a marker, which makes it an analyzer. What it does is a
map from contexts to what it returns. `Function.accepts` tells whether a host takes it for one that
can be called with one context and nothing else.
-/

namespace Assay.Plugin

open Check Source

/-- What makes a function an analyzer. -/
structure Marker where
  kind : HostKind
  name : Value
  shortDescription : Value := .none
  helpUri : Value := .none

/-- The name of analyzers that are given none. -/
def Marker.defaultName : String := "Analyzer"

/-- The name that a marker takes from a value: the default one unless the value counts as true. -/
def Marker.nameOf (v : Value) : Value := if v.isTrue then v else .text defaultName

/-- An item of what an analyzer returns: a message, or a value that is none. -/
inductive Item where
  | message (m : Message)
  | value (v : Value)

/-- The name of the type of an item. -/
def Item.typeName : Item → String
  | .message _ => "Message"
  | .value v => v.typeName

/-- What an analyzer returns: nothing, a value without items, or items. Going through the items can
fail. -/
inductive Returned where
  | nothing
  | single (type : String)
  | many (items : List Item) (fault : Option Failure)

namespace Returned

/-- What is returned with a value. -/
def ofValue (v : Value) : Returned :=
  match v with
  | .none => .nothing
  | v => match v.items with
    | .ok items => .many (items.map .value) none
    | .error _ => .single v.typeName

/-- Take the messages out of items that must all be messages. -/
def messagesOf (analyzer : Value) : List Item → Except Failure (List Message)
  | [] => .ok []
  | .message m :: rest => do return m :: (← messagesOf analyzer rest)
  | .value v :: _ => .error (.type ("analyzer " ++ analyzer.shown ++ " returned " ++ v.typeName ++
      ", expected Message"))

/-- The messages that an analyzer has returned. -/
def messages (analyzer : Value) : Returned → Except Failure (List Message)
  | .nothing => .error (.type ("analyzer " ++ analyzer.shown ++ " returned None instead of a list"))
  | .single type => .error (.type s!"'{type}' object is not iterable")
  | .many _ (some fault) => .error fault
  | .many items none => messagesOf analyzer items

end Returned

/-- A function. Arguments are bound to its parameters before its body runs. What inspection takes for
its parameters can be something else: those of a function that it stands for, or a failure. What its
annotations stand for is worked out when the host asks, which fails if one of them stands for nothing.
Looking for its marker can fail too. The host calls a function through a wrapper, and making one can
fail as well. An instance that is called is like a function. A function belongs to the module that
defines it. -/
structure Function where
  name : String
  home : String
  parameters : List Parameter
  isInstance : Bool := false
  signature : Except Failure (List Parameter) := .ok parameters
  hints : Except Failure (List (String × Annotation)) := .ok []
  marker : Except Failure (Option Marker) := .ok none
  wrapping : Except Failure Unit := .ok ()
  body : Context → Except Failure Returned

namespace Function

/-- The failure of a call that does not bind. -/
def bindingFailure (f : Function) (fault : BindingFault) : Failure :=
  fault.failure (if f.isInstance then f.name ++ ".__call__" else f.name) f.isInstance

/-- Call a function with a context. -/
def call (f : Function) (c : Context) : Except Failure Returned := do
  discard ((bindArguments f.parameters [c]).mapError f.bindingFailure)
  f.body c

/-- Whether a parameter takes the contexts of a host: its annotation is no class, or one that they
belong to. Annotations do not count if it cannot be worked out what all of them stand for. -/
def takes (f : Function) (kind : HostKind) (p : Parameter) : Except Failure Bool :=
  match f.hints with
  | .error failure => if failure.isExit then .error failure else .ok true
  | .ok hints => match hints.lookup p.name with
    | some (.ofClass c) => c.holds kind
    | _ => .ok true

/-- Whether parameters leave room for a single argument without a name, and which of them it goes
to; none of them if it goes to the rest. -/
def slotFor (parameters : List Parameter) : Option (Option Parameter) :=
  let positional := parameters.filter (·.isPositional)
  let required := positional.filter fun p => !p.isOptional
  if 1 < required.length then none
  else if parameters.any fun p => p.role = .keywordOnly && !p.isOptional then none
  else match required.head?.or positional.head? with
    | some p => some (some p)
    | none => if parameters.any fun p => p.role = .variadic then some none else none

/-- The failures that only say that something has no parameters to inspect. -/
def signatureFailures : List String :=
  ["TypeError", "ValueError", "UnicodeError", "UnicodeDecodeError", "UnicodeEncodeError",
    "UnicodeTranslateError"]

/-- Whether a function seems fit to be called with one context of a host. -/
def accepts (f : Function) (kind : HostKind) : Except Failure Bool :=
  match f.signature with
  | .error failure =>
      if signatureFailures.contains failure.kind then .ok false else .error failure
  | .ok parameters => match slotFor parameters with
    | some (some p) => f.takes kind p
    | some none => .ok true
    | none => .ok false

end Function

end Assay.Plugin
