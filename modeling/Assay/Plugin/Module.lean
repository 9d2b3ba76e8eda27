import Assay.Plugin.Function
import Assay.Value.Items

/-!
# Modules of plugins

A loaded plugin is a module: names bound to objects, in the order in which they were first bound. It
can list its analyzers, or export names; otherwise all names without a low line at the front count.
`Module.candidates` are the objects among which analyzers are looked for.
-/

namespace Assay.Plugin

/-- A member of a class; static ones are called without an instance. -/
structure ClassMember where
  name : String
  isStatic : Bool
  function : Function

/-- A class of a plugin. -/
structure ClassObject where
  name : String
  home : String
  marker : Option Marker := none
  members : List ClassMember := []

/-- An object that a name of a module can be bound to. A callable object is called like a function. -/
inductive Object where
  | function (f : Function)
  | staticMethod (f : Function)
  | ofClass (c : ClassObject)
  | callable (f : Function)
  | value (v : Value)

namespace Object

/-- How an object is shown. -/
def shown : Object → String
  | .function f => "<function " ++ f.name ++ ">"
  | .staticMethod f => "<staticmethod(<function " ++ f.name ++ ">)>"
  | .ofClass c => "<class '" ++ c.home ++ "." ++ c.name ++ "'>"
  | .callable f => "<" ++ f.home ++ "." ++ f.name ++ " object>"
  | .value v => v.shown

/-- The name of an object: the one it was defined with, or how it is shown. -/
def name : Object → String
  | .function f | .staticMethod f => f.name
  | .ofClass c => c.name
  | o => o.shown

/-- The marker of an object, if it has one. -/
def marker : Object → Except Failure (Option Marker)
  | .function f | .staticMethod f | .callable f => f.marker
  | .ofClass c => .ok c.marker
  | .value _ => .ok none

/-- An object as a function. Making an instance of a class takes no arguments, which inspection
shows, but any are refused only when it is made. -/
def toFunction? : Object → Option Function
  | .function f | .staticMethod f | .callable f => some f
  | .ofClass c => some
      { name := c.name, home := c.home, parameters := [{ name := "args", role := .variadic }]
        signature := .ok [], marker := .ok c.marker
        body := fun _ => .error (.type (c.name ++ "() takes no arguments")) }
  | .value _ => none

/-- The module that an object which can be called was defined in. -/
def home? (o : Object) : Option String := o.toFunction?.map (·.home)

end Object

/-- A loaded plugin. One that was loaded from a file knows its path. -/
structure Module where
  name : String
  file : Option String := none
  bindings : List (String × Object) := []
  exports : Option Value := none
  listed : Option (Except Failure (List Object)) := none

namespace Module

/-- Bind a name: in its place if it is bound already, at the end if not. -/
def bind (name : String) (o : Object) : List (String × Object) → List (String × Object)
  | [] => [(name, o)]
  | b :: rest => if b.1 = name then (name, o) :: rest else b :: bind name o rest

/-- The object that a name is bound to. -/
def find? (m : Module) (name : String) : Option Object := m.bindings.lookup name

/-- Whether a name is meant for others. -/
def isPublic (name : String) : Bool := !name.startsWith "_"

/-- The names among which analyzers are looked for. -/
def candidateNames (m : Module) : Except Failure (List Value) :=
  match m.exports with
  | some v => v.items
  | none => .ok ((m.bindings.filter fun b => isPublic b.1).map fun b => .text b.1)

/-- The candidates behind a name: the public static members of a class of this module, or an object
that can be called. What was defined elsewhere counts only if it is exported. -/
def candidatesOf (m : Module) (name : String) : List (String × Object) :=
  match m.find? name with
  | some (.ofClass c) =>
      if c.home = m.name then
        (c.members.filter fun f => f.isStatic && isPublic f.name).map fun f =>
          (name ++ "." ++ f.name, .function f.function)
      else []
  | some o =>
      match o.home? with
      | some home => if m.exports.isSome || home = m.name then [(name, o)] else []
      | none => []
  | none => []

/-- The candidates behind names, which must be texts. -/
def candidatesAmong (m : Module) : List Value → Except Failure (List (String × Object))
  | [] => .ok []
  | v :: rest => match v.text? with
    | some name => do return m.candidatesOf name ++ (← m.candidatesAmong rest)
    | none => .error (.type ("attribute name must be string, not '" ++ v.typeName ++ "'"))

/-- The objects among which analyzers are looked for, with their names. -/
def candidates (m : Module) : Except Failure (List (String × Object)) :=
  match m.listed with
  | some listed => do return (← listed).map fun o => (o.name, o)
  | none => do m.candidatesAmong (← m.candidateNames)

end Module

end Assay.Plugin
