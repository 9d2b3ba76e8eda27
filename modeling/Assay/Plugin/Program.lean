import Assay.Plugin.Annotation.Resolve
import Assay.Plugin.Behaviour
import Assay.Plugin.Module

/-!
# Programs of plugins

The program of a plugin defines members one after the other, then says what it exports and which
analyzers it lists, and may fail at the end. Running it gives a module. Members of an equal name
replace each other in the place of the first.
-/

namespace Assay.Plugin

open Check Source

/-- A parameter as it is written. -/
structure WrittenParameter extends Parameter where
  annotation : Option String := none

/-- A function as it is written. It may show other parameters when it is inspected, or fail then, and
it may resist being looked at for its marker or being wrapped. -/
structure Definition where
  name : String
  marker : Option Marker := none
  marking : Except Failure Unit := .ok ()
  parameters : List WrittenParameter := [{ name := "ctx" }]
  inspected : Option (Except Failure (List Parameter)) := none
  wrapping : Except Failure Unit := .ok ()
  returns : Option String := none
  isAwaited : Bool := false
  behaviour : Behaviour := .emit []

/-- What a plugin can import from elsewhere: an analyzer, and a class with one. -/
inductive Shared where
  | function
  | ofClass
  deriving DecidableEq, Repr, Inhabited

/-- A member that a program defines, binds again or takes away. -/
inductive Member where
  | function (d : Definition)
  | ofClass (name : String) (marker : Option Marker) (statics methods : List Definition)
  | callable (d : Definition)
  | value (name : String) (v : Value)
  | alias (name target : String)
  | delete (name : String)
  | imported (name : String) (what : Shared)

/-- An item of a list of analyzers: a value, or an object of the program by its name, perhaps by the
name of a member of a class, as it is called or as it is kept there. -/
inductive ListedItem where
  | value (v : Value)
  | object (name : String)
  | member (className name : String) (raw : Bool)

/-- A list of analyzers: items, a value that stands in its place, or one that fails when it is gone
through. -/
inductive Listing where
  | items (items : List ListedItem)
  | value (v : Value)
  | failing (f : Failure)

/-- The program of a plugin. -/
structure Program where
  members : List Member := []
  exports : Value := .none
  listed : Option Listing := none
  failure : Option Failure := none
  deferAnnotations : Bool := false

/-! ## Shared members -/

/-- The module of what plugins share. -/
def sharedHome : String := "shared_analyzers"

/-- The analyzer that plugins share. -/
def sharedFunction : Function :=
  { name := "shared", home := sharedHome, parameters := [{ name := "ctx" }]
    marker := .ok (some { kind := .cli, name := .text "Shared",
                          shortDescription := .text "shared analyzer" })
    body := (Behaviour.emit [.object [("code", .text "SHARED")]]).run }

/-- The class that plugins share. -/
def sharedClass : ClassObject :=
  { name := "SharedClass", home := sharedHome
    members := [{ name := "check", isStatic := true, function :=
      { name := "SharedClass.check", home := sharedHome, parameters := [{ name := "ctx" }]
        marker := .ok (some { kind := .cli, name := .text "SharedStatic" })
        body := (Behaviour.emit []).run } }] }

/-- An object that plugins share. -/
def Shared.object : Shared → Object
  | .function => .function sharedFunction
  | .ofClass => .ofClass sharedClass

/-! ## Running -/

namespace Definition

/-- The order in which the annotations of parameters are worked out, by their roles. -/
def annotationOrder : List ParameterRole :=
  [.positional, .positionalOnly, .variadic, .keywordOnly, .variadicKeyword]

/-- The annotations of a definition as they are written, in the order in which they are worked
out. -/
def written (d : Definition) : List (String × String) :=
  let ordered := annotationOrder.flatMap fun role => d.parameters.filter fun p => p.role = role
  ordered.filterMap (fun p => p.annotation.map fun a => (p.name, a)) ++
    (d.returns.map fun a => ("return", a)).toList

/-- What annotations stand for where a function is defined; deferred ones stay as they are. -/
def annotationsOf (deferred : Bool) : List (String × String) →
    Except Failure (List (String × Annotation))
  | [] => .ok []
  | (name, text) :: rest => do
      let a ← if deferred then pure (.constant (.text text)) else Annotation.ofText text
      return (name, a) :: (← annotationsOf deferred rest)

/-- Define a function in a module, or in a class of it. -/
def define (d : Definition) (home : String) (deferred : Bool) (owner : String := "") :
    Except Failure Function := do
  let annotations ← annotationsOf deferred d.written
  let parameters := d.parameters.map (·.toParameter)
  return { name := owner ++ d.name, home, parameters, signature := d.inspected.getD (.ok parameters)
           hints := Annotation.resolveAll annotations, marker := d.marking.map fun _ => d.marker
           wrapping := d.wrapping
           body := if d.isAwaited then d.behaviour.runAwaited else d.behaviour.run }

end Definition

namespace Program

/-- The failure for a name that is not bound. -/
def unbound (name : String) : Failure := .of "NameError" s!"name '{name}' is not defined"

/-- Add a member to a class, in the place of one with its name. -/
def addMember (m : ClassMember) : List ClassMember → List ClassMember
  | [] => [m]
  | n :: rest => if n.name = m.name then m :: rest else n :: addMember m rest

/-- Define the members of a class. Methods take the instance first. -/
def defineMembers (home owner : String) (deferred isStatic : Bool) (done : List ClassMember) :
    List Definition → Except Failure (List ClassMember)
  | [] => .ok done
  | d :: rest => do
      let receiver : List WrittenParameter := if isStatic then [] else [{ name := "self" }]
      let d := { d with parameters := receiver ++ d.parameters }
      let function ← d.define home deferred (owner ++ ".")
      defineMembers home owner deferred isStatic
        (addMember { name := d.name, isStatic, function } done) rest

/-- The object that a name is bound to. -/
def objectOf (bindings : List (String × Object)) (name : String) : Except Failure Object :=
  match bindings.lookup name with
  | some o => .ok o
  | none => .error (unbound name)

/-- Run a member in a module. -/
def define (home : String) (deferred : Bool) (bindings : List (String × Object)) :
    Member → Except Failure (List (String × Object))
  | .function d => do
      return Module.bind d.name (.function (← d.define home deferred)) bindings
  | .ofClass name marker statics methods => do
      let done ← defineMembers home name deferred true [] statics
      let members ← defineMembers home name deferred false done methods
      return Module.bind name (.ofClass { name, home, marker, members }) bindings
  | .callable d => do
      let f ← d.define home deferred
      let hints := .error (.type (f.name ++ " is not a module, class, method, or function."))
      return Module.bind d.name (.callable { f with isInstance := true, hints }) bindings
  | .value name v => .ok (Module.bind name (.value v) bindings)
  | .alias name target => do return Module.bind name (← objectOf bindings target) bindings
  | .delete name => do
      discard (objectOf bindings name)
      return bindings.filter fun b => b.1 ≠ name
  | .imported name what => .ok (Module.bind name what.object bindings)

/-- The object that an item of a list of analyzers is. -/
def listedObject (bindings : List (String × Object)) : ListedItem → Except Failure Object
  | .value v => .ok (.value v)
  | .object name => objectOf bindings name
  | .member className name raw => do
      match ← objectOf bindings className with
      | .ofClass c => match c.members.find? fun m => m.name = name with
        | some m =>
            return if raw && m.isStatic then .staticMethod m.function else .function m.function
        | none =>
            if raw then throw (.of "KeyError" name)
            else
              let owner := c.name
              throw (.of "AttributeError" s!"type object '{owner}' has no attribute '{name}'")
      | o => throw (.of "AttributeError" (o.shown ++ s!" object has no attribute '{name}'"))

/-- The analyzers that a list names; there are none if nothing stands in its place. -/
def listedObjects (bindings : List (String × Object)) :
    Option Listing → Except Failure (Option (Except Failure (List Object)))
  | none | some (.value .none) => .ok none
  | some (.value v) => .ok (some (v.items.map fun items => items.map .value))
  | some (.failing f) => .ok (some (.error f))
  | some (.items items) => do return some (.ok (← items.mapM (listedObject bindings)))

/-- Run a program as a module of some name. -/
def run (p : Program) (name : String) : Except Failure Module := do
  let bindings ← p.members.foldlM (define name p.deferAnnotations) []
  let exports := match p.exports with
    | .none => none
    | v => some v
  let listed ← listedObjects bindings p.listed
  match p.failure with
  | some f => throw f
  | none => return { name, bindings, exports, listed }

end Program

end Assay.Plugin
