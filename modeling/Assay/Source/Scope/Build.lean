import Assay.Source.Stmt
import Assay.Source.Symbol

/-!
# Collecting the symbols of a module

The statements are visited in the order in which scopes are created: defaults, hints and decorators
of a function before its own scope, the handlers of a guarded block behind its `else` branch, the
value of a named expression before its target, and the first iterable of a comprehension in the
scope around it.
-/

namespace Assay.Source

/-- What an open scope belongs to. Hints that are not evaluated have a scope of their own that
leaves no trace. -/
inductive OpenKind where
  | named (kind : ScopeKind)
  | comprehension (kind : ComprehensionKind)
  | hint
  deriving DecidableEq

/-- A scope that is being filled. `iterables` counts the iterable expressions of comprehensions
around the current place, and `iterating` holds while the target of a comprehension is visited. -/
structure OpenScope where
  frame : ScopeFrame
  kind : OpenKind
  iterables : Nat := 0
  iterating : Bool := false
  children : List Scope := []

/-- The state of the collection: the open scopes, innermost first, the number of scopes so far,
the class whose private names are spelled with its name, and whether hints are evaluated. -/
structure ScopeBuilder where
  stack : List OpenScope
  count : Nat
  privateTo : Option String := none
  hintsEvaluated : Bool := true

/-- A step of the collection. -/
abbrev Collect := StateT ScopeBuilder (Except LocatedFault)

/-- Stop with a fault. -/
def Collect.fault {α : Type} (fault : ScopeFault) (line : Nat) : Collect α :=
  throw ⟨fault, line⟩

/-- How a name is spelled in the body of a class: names that begin with two low lines and do not
end with two belong to the class. -/
def mangle (privateTo : Option String) (name : String) : String :=
  match privateTo with
  | none => name
  | some owner =>
      let cs := name.toList
      let stripped := owner.toList.dropWhile (· = '_')
      if !(['_', '_'].isPrefixOf cs) || ['_', '_'].isSuffixOf cs || cs.contains '.' ||
          stripped.isEmpty then name
      else String.ofList ('_' :: stripped ++ cs)

/-- Add a role of a name to symbols, a new name at the end. -/
def addRole (name : String) (role : SymbolRole) : List Symbol → List Symbol
  | [] => [{ name, roles := [role] }]
  | s :: rest => if s.name == name then s.add role :: rest else s :: addRole name role rest

/-- Whether a name occurs in a role. -/
def hasRole (symbols : List Symbol) (name : String) (role : SymbolRole) : Bool :=
  symbols.any fun s => s.name == name && s.has role

namespace OpenScope

/-- Add a role of a name that is spelled out already. A fault tells the name as it is written. -/
def define (o : OpenScope) (written name : String) (role : SymbolRole) (line : Nat) :
    Except LocatedFault OpenScope :=
  let symbols := o.frame.symbols
  if role = .parameter && hasRole symbols name .parameter then
    .error ⟨.duplicateParameter written, line⟩
  else
    let added := addRole name role symbols
    if o.iterating then
      if hasRole added name .globalDeclared || hasRole added name .nonlocalDeclared then
        .error ⟨.iterationRebinds written, line⟩
      else .ok { o with frame := { o.frame with symbols := addRole name .iterated added } }
    else .ok { o with frame := { o.frame with symbols := added } }

/-- Remember where a name is declared global or nonlocal. -/
def direct (o : OpenScope) (name : String) (line : Nat) : OpenScope :=
  { o with frame := { o.frame with directives := o.frame.directives ++ [(name, line)] } }

end OpenScope

namespace Collect

/-- The innermost scope. -/
def current : Collect OpenScope := do
  match (← get).stack with
  | o :: _ => return o
  | [] => return { frame := { id := 0, kind := .module, name := "", line := 0 }, kind := .hint }

/-- Change the innermost scope. -/
def modifyCurrent (f : OpenScope → OpenScope) : Collect Unit :=
  modify fun b => match b.stack with
    | o :: rest => { b with stack := f o :: rest }
    | [] => b

/-- The outermost scope gets the names that are declared global anywhere. -/
def declareAtTop (name : String) : List OpenScope → List OpenScope
  | [] => []
  | [o] => [{ o with frame :=
      { o.frame with symbols := addRole name .globalDeclared o.frame.symbols } }]
  | o :: rest => o :: declareAtTop name rest

/-- Change the scope at a depth, zero being the innermost. -/
def modifyAt (f : OpenScope → Except LocatedFault OpenScope) :
    Nat → List OpenScope → Except LocatedFault (List OpenScope)
  | _, [] => .ok []
  | 0, o :: rest => do return (← f o) :: rest
  | depth + 1, o :: rest => do return o :: (← modifyAt f depth rest)

/-- Add a role of a name to the scope at a depth. -/
def defineAt (depth : Nat) (name : String) (role : SymbolRole) (line : Nat) : Collect Unit := do
  let b ← get
  let spelled := mangle b.privateTo name
  let stack ← modifyAt (·.define name spelled role line) depth b.stack
  let stack := if role = SymbolRole.globalDeclared then declareAtTop spelled stack else stack
  set { b with stack }

/-- Add a role of a name to the innermost scope. -/
def define (name : String) (role : SymbolRole) (line : Nat) : Collect Unit :=
  defineAt 0 name role line

/-- Whether a name occurs in a role in the innermost scope. -/
def occursAs (name : String) (role : SymbolRole) : Collect Bool := do
  return hasRole (← current).frame.symbols (mangle (← get).privateTo name) role

/-- Remember where a name is declared global or nonlocal. -/
def direct (name : String) (line : Nat) : Collect Unit := do
  let spelled := mangle (← get).privateTo name
  modifyCurrent (·.direct spelled line)

/-- Open a scope. -/
def enter (kind : OpenKind) (name : String) (line : Nat) : Collect Unit := do
  let b ← get
  let scopeKind := match kind with
    | .named k => k
    | _ => .function
  let iterables := (b.stack.head?.map (·.iterables)).getD 0
  let frame : ScopeFrame := { id := b.count, kind := scopeKind, name, line }
  set { b with stack := { frame, kind, iterables } :: b.stack, count := b.count + 1 }

/-- Close the innermost scope. -/
def leave : Collect Unit :=
  modify fun b => match b.stack with
    | o :: parent :: rest =>
        if o.kind = .hint then { b with stack := parent :: rest }
        else
          let scope := Scope.mk o.frame o.children
          { b with stack := { parent with children := parent.children ++ [scope] } :: rest }
    | _ => b

/-- Refuse what may not stand in a hint. -/
def notInHint (what : String) (line : Nat) : Collect Unit := do
  if (← current).kind = .hint then fault (.inHint what) line

/-- Where the target of a named expression inside of comprehensions is bound: the first scope
around them that is no comprehension. -/
def extendWalrus (name : String) (line : Nat) : Nat → List OpenScope → Collect Unit
  | _, [] => return ()
  | depth, o :: rest => do
      let spelled := mangle (← get).privateTo name
      match o.kind with
      | .comprehension _ =>
          if hasRole o.frame.symbols spelled .iterated then fault (.rebindsIteration name) line
          else extendWalrus name line (depth + 1) rest
      | .hint => extendWalrus name line (depth + 1) rest
      | .named .function => do
          define name (if hasRole o.frame.symbols spelled .globalDeclared then .globalDeclared
            else .nonlocalDeclared) line
          direct name line
          defineAt depth name .assigned line
      | .named .module => do
          define name .globalDeclared line
          direct name line
          defineAt depth name .globalDeclared line
      | .named .classBody => fault .walrusInClassComprehension line

/-- What a comprehension is called in messages. -/
def describe : ComprehensionKind → String
  | .list => "list comprehension"
  | .set => "set comprehension"
  | .mapping => "dict comprehension"
  | .generator => "generator expression"

/-- The name of the scope of a comprehension. -/
def scopeName : ComprehensionKind → String
  | .list => "listcomp"
  | .set => "setcomp"
  | .mapping => "dictcomp"
  | .generator => "genexpr"

/-- Declare the parameters of a function: those with names of their own before the variadic ones. -/
def parameters (ps : List ParameterName) : Collect Unit := do
  let declare (roles : List ParameterRole) : Collect Unit :=
    (ps.filter fun p => roles.contains p.role).forM fun p => define p.name .parameter p.span.line
  declare [.positionalOnly]
  declare [.positional]
  declare [.keywordOnly]
  declare [.variadic]
  declare [.variadicKeyword]

/-- Count an iterable expression of a comprehension as being visited, or as done. -/
def iterable (f : Nat → Nat) : Collect Unit :=
  modifyCurrent fun o => { o with iterables := f o.iterables }

/-- Mark the target of a comprehension as being visited, or as done. -/
def iterating (on : Bool) : Collect Unit :=
  modifyCurrent fun o => { o with iterating := on }

/-- What a `yield` may not stand in. -/
def checkYield (line : Nat) : Collect Unit := do
  match (← current).kind with
  | .comprehension kind => fault (.yieldInside (describe kind)) line
  | _ => return ()

/-- A name that is read or bound. Reading `super` in a function also reads the class around it. -/
def name (id : String) (access : Access) (line : Nat) : Collect Unit := do
  define id (if access = .load then .used else .assigned) line
  if access = .load && id == "super" then
    let inFunction := match (← current).kind with
      | .named .function | .comprehension _ => true
      | _ => false
    if inFunction then define "__class__" .used line

mutual

/-- Visit an expression. -/
def expr : Expr → Collect Unit
  | .name span id access => name id access span.line
  | .literal .. => return ()
  | .member _ object _ _ => expr object
  | .subscript _ object index _ => do
      expr object
      expr index
  | .starred _ value _ => expr value
  | .sequence _ _ items _ => exprs items
  | .operation span operator operands => do
      match operator with
      | .yield | .yieldFrom =>
          notInHint "yield expression" span.line
          exprs operands
          checkYield span.line
      | .await =>
          notInHint "await expression" span.line
          exprs operands
      | _ => exprs operands
  | .walrus span target value => do
      notInHint "named expression" span.line
      let o ← current
      if 0 < o.iterables then fault .walrusInIterable span.line
      match o.kind, target with
      | .comprehension _, .name s id .store => extendWalrus id s.line 0 (← get).stack
      | _, _ => pure ()
      expr value
      expr target
  | .lambda span ps defaults keywordDefaults body => do
      exprs defaults
      exprs keywordDefaults
      enter (.named .function) "lambda" span.line
      parameters ps
      expr body
      leave
  | .comprehension span kind results _ target first conditions further => do
      iterable (· + 1)
      expr first
      iterable (· - 1)
      enter (.comprehension kind) (scopeName kind) span.line
      define ".0" .parameter span.line
      iterating true
      expr target
      iterating false
      exprs conditions
      clauses further
      exprsBackward results
      leave

/-- Visit expressions in order. -/
def exprs : List Expr → Collect Unit
  | [] => return ()
  | e :: es => do
      expr e
      exprs es

/-- Visit expressions from the last to the first. -/
def exprsBackward : List Expr → Collect Unit
  | [] => return ()
  | e :: es => do
      exprsBackward es
      expr e

/-- Visit the further clauses of a comprehension. -/
def clauses : List Clause → Collect Unit
  | [] => return ()
  | .mk _ target source conditions :: rest => do
      iterating true
      expr target
      iterating false
      iterable (· + 1)
      expr source
      iterable (· - 1)
      exprs conditions
      clauses rest

end

/-- Visit hints that are evaluated together. -/
def hints (es : List Expr) (line : Nat) : Collect Unit := do
  if (← get).hintsEvaluated then exprs es
  else
    enter .hint "_annotation" line
    exprs es
    leave

/-- The hints of parameters in some roles. -/
def hintsOf (signature : Signature) (roles : List ParameterRole) : List Expr :=
  (signature.parameters.filter fun p => roles.contains p.role).filterMap (·.hint)

/-- Declare a name global or nonlocal. -/
def declare (role : SymbolRole) (word name : String) (line : Nat) : Collect Unit := do
  if ← occursAs name .parameter then fault (.parameterAnd word name) line
  if ← occursAs name .used then fault (.usedBefore word name) line
  if ← occursAs name .hinted then fault (.hintedAnd word name) line
  if ← occursAs name .assigned then fault (.assignedBefore word name) line
  define name role line
  direct name line

/-- Bind what an import statement binds. -/
def importAlias (bound : Alias → String) (a : Alias) : Collect Unit := do
  if a.isStar then
    if (← current).kind ≠ .named .module then fault .starImport a.span.line
  else define (bound a) .imported a.span.line

mutual

/-- Visit a pattern. -/
def pattern : Pattern → Collect Unit
  | .mk span _ expressions parts binds => do
      exprs expressions
      patterns parts
      match binds with
      | some name => define name .assigned span.line
      | none => return ()

/-- Visit patterns in order. -/
def patterns : List Pattern → Collect Unit
  | [] => return ()
  | p :: ps => do
      pattern p
      patterns ps

end

mutual

/-- Visit a statement. -/
def stmt : Stmt → Collect Unit
  | .function span _ name signature returns decorators body => do
      define name .assigned span.line
      exprs signature.defaults
      exprs signature.keywordDefaults
      hints (hintsOf signature [.positionalOnly] ++ hintsOf signature [.positional] ++
        hintsOf signature [.variadic] ++ hintsOf signature [.variadicKeyword] ++
        hintsOf signature [.keywordOnly]) span.line
      match returns with
      | some hint => hints [hint] hint.span.line
      | none => pure ()
      exprs decorators
      enter (.named .function) name span.line
      parameters (signature.parameters.map (·.toParameterName))
      stmts body
      leave
  | .classDef span name bases keywords decorators body => do
      define name .assigned span.line
      exprs bases
      exprs keywords
      exprs decorators
      enter (.named .classBody) name span.line
      let outer := (← get).privateTo
      modify ({ · with privateTo := some name })
      stmts body
      modify ({ · with privateTo := outer })
      leave
  | .assign _ targets value => do
      exprs targets
      expr value
  | .annotate span target hint value bare => do
      match target with
      | .name s id .store =>
          if bare && (← get).stack.length ≠ 1 then
            if ← occursAs id .globalDeclared then fault (.hintedAnd "global" id) span.line
            if ← occursAs id .nonlocalDeclared then fault (.hintedAnd "nonlocal" id) span.line
          if bare then
            define id .hinted s.line
            define id .assigned s.line
          else if value.isSome then define id .assigned s.line
      | _ => expr target
      hints [hint] hint.span.line
      exprs value.toList
  | .expression _ value => expr value
  | .evaluate _ _ es => exprs es
  | .flow _ _ header body otherwise => do
      exprs header
      stmts body
      stmts otherwise
  | .guarded _ _ body handlers otherwise final => do
      stmts body
      stmts otherwise
      handlersOf handlers
      stmts final
  | .branch _ subject cases => do
      expr subject
      casesOf cases
  | .importModules _ names => names.forM (importAlias Alias.boundByImport)
  | .importFrom _ _ _ names => names.forM (importAlias Alias.boundByFrom)
  | .globals span names => names.forM fun name =>
      declare .globalDeclared "global" name span.line
  | .nonlocals span names => names.forM fun name =>
      declare .nonlocalDeclared "nonlocal" name span.line

/-- Visit statements in order. -/
def stmts : List Stmt → Collect Unit
  | [] => return ()
  | s :: rest => do
      stmt s
      stmts rest

/-- Visit handlers in order. -/
def handlersOf : List Handler → Collect Unit
  | [] => return ()
  | .mk span type? bound body :: rest => do
      exprs type?.toList
      match bound with
      | some name => define name .assigned span.line
      | none => pure ()
      stmts body
      handlersOf rest

/-- Visit cases in order. -/
def casesOf : List Case → Collect Unit
  | [] => return ()
  | .mk p guard? body :: rest => do
      pattern p
      exprs guard?.toList
      stmts body
      casesOf rest

end

end Collect

/-! ## Features -/

/-- The features that a module can ask for. All but one change nothing here. -/
def knownFeatures : List String :=
  ["nested_scopes", "generators", "division", "absolute_import", "with_statement",
   "print_function", "unicode_literals", "barry_as_FLUFL", "generator_stop", "annotations"]

/-- Check the features that one statement asks for. -/
def checkFeatures (line : Nat) : List Alias → Except LocatedFault Unit
  | [] => .ok ()
  | a :: rest =>
      if knownFeatures.contains a.name then checkFeatures line rest
      else if a.name == "braces" then .error ⟨.braces, line⟩
      else .error ⟨.unknownFeature a.name, line⟩

/-- The names of the features that a module asks for. Only texts may stand before such a statement;
behind other statements it is refused in the line of those and ignored in later lines. -/
def features : Bool → Nat → List Stmt → Except LocatedFault (List String)
  | _, _, [] => .ok []
  | done, previous, s :: rest =>
      let line := s.span.line
      if done && previous < line then .ok []
      else match s with
        | .importFrom _ (some "__future__") _ names =>
            if done then .error ⟨.lateFuture, line⟩
            else do
              checkFeatures line names
              return names.map (·.name) ++ (← features done line rest)
        | .expression _ (.literal _ (.text _)) => features done line rest
        | _ => features true line rest

end Assay.Source
