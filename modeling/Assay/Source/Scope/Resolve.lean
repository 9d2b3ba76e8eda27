import Assay.Source.Scope.Build

/-!
# What names refer to

A name that a scope binds is local to it. Otherwise it is free if a function around the scope binds
it, and global if none does; the names of a class are not seen from the scopes inside it. A local
name that a scope inside refers to is a cell.
-/

namespace Assay.Source

/-- The names around a scope: those that functions around it bind, if there is a scope around it,
and those that are known to be global. -/
structure Surroundings where
  bound : Option (List String)
  globals : List String

/-- The names of a scope as far as they are resolved. -/
structure Resolution where
  symbols : List Symbol := []
  around : Surroundings
  locals : List String := []
  free : List String := []

namespace Resolution

/-- The line of the first declaration of a name. -/
def directiveLine (frame : ScopeFrame) (name : String) : Nat :=
  ((frame.directives.find? fun d => d.1 == name).map (·.2)).getD 0

/-- Resolve one name. -/
def addSymbol (frame : ScopeFrame) (r : Resolution) (s : Symbol) :
    Except LocatedFault Resolution :=
  let resolved (binding : Binding) : List Symbol := r.symbols ++ [{ s with binding }]
  let isBoundAround : Bool := (r.around.bound.getD []).contains s.name
  let fault (f : ScopeFault) : Except LocatedFault Resolution :=
    .error ⟨f, directiveLine frame s.name⟩
  if s.has .globalDeclared then
    if s.has .nonlocalDeclared then fault (.nonlocalAndGlobal s.name)
    else .ok { r with
      symbols := resolved .declaredGlobal,
      around := { bound := r.around.bound.map (·.filter (· ≠ s.name)),
                  globals := s.name :: r.around.globals } }
  else if s.has .nonlocalDeclared then
    if r.around.bound.isNone then fault .nonlocalAtTop
    else if isBoundAround then .ok { r with symbols := resolved .free, free := s.name :: r.free }
    else fault (.unboundNonlocal s.name)
  else if s.isBound then
    .ok { r with
      symbols := resolved .local, locals := s.name :: r.locals,
      around := { r.around with globals := r.around.globals.filter (· ≠ s.name) } }
  else if isBoundAround then
    .ok { r with symbols := resolved .free, free := s.name :: r.free }
  else .ok { r with symbols := resolved .impliedGlobal }

/-- Resolve the names of a scope in the order of their first occurrence. -/
def addSymbols (frame : ScopeFrame) (r : Resolution) : List Symbol → Except LocatedFault Resolution
  | [] => .ok r
  | s :: rest => do addSymbols frame (← r.addSymbol frame s) rest

/-- What the scopes inside see. -/
def inner (kind : ScopeKind) (before : Surroundings) (r : Resolution) : Surroundings :=
  match kind with
  | .classBody => { bound := some ("__class__" :: before.bound.getD []), globals := before.globals }
  | .function =>
      { bound := some (r.locals ++ r.around.bound.getD []), globals := r.around.globals }
  | .module => { bound := some (r.around.bound.getD []), globals := r.around.globals }

end Resolution

/-- Names that are free inside and neither known here nor global belong to the symbols too. -/
def passOn (bound : Option (List String)) (free : List String) (symbols : List Symbol) :
    List Symbol :=
  free.foldl (fun symbols name =>
    if symbols.any (·.name == name) then symbols
    else if bound.any fun names => !names.contains name then symbols
    else symbols ++ [{ name, roles := [], binding := .free }]) symbols

namespace Scope

mutual

/-- Resolve the names of a scope and of the scopes inside; also gives the names that stay free. -/
def resolve (around : Surroundings) : Scope → Except LocatedFault (Scope × List String)
  | mk frame children => do
      let r ← Resolution.addSymbols frame { around } frame.symbols
      let (children, below) ← resolveAll (r.inner frame.kind around) children
      let (symbols, below) := match frame.kind with
        | .function =>
            let isCell (s : Symbol) : Bool := s.binding = .local && below.contains s.name
            let cells := (r.symbols.filter isCell).map (·.name)
            (r.symbols.map fun s => if isCell s then { s with binding := .cell } else s,
             below.filter fun name => !cells.contains name)
        | .classBody => (r.symbols, below.filter (· ≠ "__class__"))
        | .module => (r.symbols, below)
      let symbols := passOn r.around.bound below symbols
      return (mk { frame with symbols } children, r.free ++ below)

/-- Resolve the names of scopes side by side. -/
def resolveAll (around : Surroundings) : List Scope → Except LocatedFault (List Scope × List String)
  | [] => .ok ([], [])
  | s :: rest => do
      let (s, free) ← resolve around s
      let (rest, others) ← resolveAll around rest
      return (s :: rest, free ++ others)

end

/-- The scopes of a module. -/
def ofModule (m : Module) : Except LocatedFault Scope := do
  let asked ← features false 0 m.body
  let start : ScopeBuilder :=
    { stack := [{ frame := { id := 0, kind := .module, name := "top", line := 0 },
                  kind := .named .module }],
      count := 1, hintsEvaluated := !asked.contains "annotations" }
  let ((), b) ← (Collect.stmts m.body).run start
  match b.stack with
  | o :: _ =>
      let (s, _) ← resolve { bound := none, globals := [] } (mk o.frame o.children)
      return s
  | [] => return mk { id := 0, kind := .module, name := "top", line := 0 } []

end Scope

end Assay.Source
