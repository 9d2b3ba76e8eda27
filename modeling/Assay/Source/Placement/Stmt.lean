import Assay.Source.Placement.Pattern
import Assay.Source.Scope.Build

/-!
# Where statements may stand

`Module.checkPlacement` looks at a whole module and finds the first construct that may not stand
where it stands. Statements are looked at in order, and their parts in the order in which they are
evaluated: a value before its targets, the body of a class before its bases.
-/

namespace Assay.Source

/-! ## Functions that are suspended -/

namespace Stmt

mutual

/-- Whether a statement suspends the function that it belongs to. -/
def suspends (how : Suspension) : Stmt → Bool
  | function _ _ _ signature returns decorators _ =>
      Expr.suspendAny how (decorators ++ signature.defaults ++ signature.keywordDefaults ++
        signature.parameters.filterMap (·.hint) ++ returns.toList)
  | classDef _ _ bases keywords decorators _ =>
      Expr.suspendAny how (bases ++ keywords ++ decorators)
  | assign _ targets value => Expr.suspendAny how (value :: targets)
  | annotate _ target hint value _ => Expr.suspendAny how (target :: hint :: value.toList)
  | expression _ value => Expr.suspends how value
  | evaluate _ _ es => Expr.suspendAny how es
  | flow _ _ header body otherwise =>
      Expr.suspendAny how header || suspendAny how body || suspendAny how otherwise
  | guarded _ _ body handlers otherwise final =>
      suspendAny how body || handlersSuspend how handlers || suspendAny how otherwise ||
        suspendAny how final
  | branch _ subject cases => Expr.suspends how subject || casesSuspend how cases
  | importModules .. | importFrom .. | globals .. | nonlocals .. => false

/-- Whether one of some statements suspends the function that they belong to. -/
def suspendAny (how : Suspension) : List Stmt → Bool
  | [] => false
  | s :: rest => suspends how s || suspendAny how rest

/-- Whether a handler suspends the function that it belongs to. -/
def handlersSuspend (how : Suspension) : List Handler → Bool
  | [] => false
  | .mk _ type? _ body :: rest =>
      Expr.suspendAny how type?.toList || suspendAny how body || handlersSuspend how rest

/-- Whether a case suspends the function that it belongs to. -/
def casesSuspend (how : Suspension) : List Case → Bool
  | [] => false
  | .mk _ guard? body :: rest =>
      Expr.suspendAny how guard?.toList || suspendAny how body || casesSuspend how rest

end

end Stmt

namespace Site

/-! ## Parts of statements -/

/-- The site in the body of a function. -/
def inFunctionOf (site : Site) (isAsync : Bool) (body : List Stmt) : Site :=
  site.inside (if isAsync then .asyncFunction else .function)
    ((isAsync || Stmt.suspendAny .awaiting body) && Stmt.suspendAny .yielding body)

/-- The names of parameters in some roles. -/
def checkParameters (ps : List Parameter) (span : Span) : Placed Unit :=
  let check (role : ParameterRole) : Placed Unit :=
    (ps.filter fun p => p.role = role).forM fun p => checkName .store p.name span
  do
    check .positionalOnly
    check .positional
    check .variadic
    check .keywordOnly
    check .variadicKeyword

/-- Look at the hints of parameters in some roles; the hint of a variadic parameter may be starred. -/
def hints (site : Site) (signature : Signature) (roles : List ParameterRole) : Placed Unit :=
  roles.forM fun role => site.exprs true (Collect.hintsOf signature [role])

/-- Refuse to return where there is no function, or where a generator gives no value. -/
def checkReturn (site : Site) (values : List Expr) (span : Span) : Placed Unit := do
  if !site.inFunction then throw ⟨.outsideFunction "return", span⟩
  if site.isAsyncGenerator && !values.isEmpty then throw ⟨.valueFromAsyncGenerator, span⟩
  site.exprs false values
  let place := match values with
    | [.literal s _] => if s.line = span.line then s else span
    | _ => span
  discard (leave false place site.blocks)

/-- Look at what an augmented assignment reads to find its target, at its value, and at the target. -/
def augment (site : Site) (target value : Expr) : Placed Unit := do
  match target with
  | .member _ object _ _ => site.expr false object
  | .subscript _ object index _ => do
      site.expr false object
      site.expr false index
  | _ => pure ()
  site.expr false value
  match target with
  | .name span id _ => checkName .store id span
  | _ => return ()

/-- Look at a hint that is evaluated, which it is outside of functions. -/
def outerHint (site : Site) (hint : Expr) : Placed Unit :=
  if site.inFunction || !site.hintsEvaluated then .ok () else site.expr false hint

/-- Look at an assignment with a hint. -/
def annotate (site : Site) (span : Span) (target hint : Expr) (value : Option Expr) :
    Placed Unit := do
  if value.isSome then
    site.exprs false value.toList
    site.expr false target
  match target with
  | .name _ id _ => checkName .store id span
  | .member _ object field _ => do
      checkName .store field span
      if value.isNone then site.expr false object
  | .subscript _ object index _ =>
      if value.isNone then
        site.expr false object
        match index with
        | .sequence _ .tuple items _ => site.exprs false items
        | index => site.expr false index
  | _ => pure ()
  site.outerHint hint

/-- Whether an expression in the header of contexts is a target. -/
def isTarget : Expr → Bool
  | .name _ _ access | .member _ _ _ access | .subscript _ _ _ access | .starred _ _ access
  | .sequence _ _ _ access => access = .store
  | _ => false

/-- The site within contexts. -/
def contexts (site : Site) (span : Span) : List Expr → Placed Site
  | [] => .ok site
  | e :: rest => do
      site.expr false e
      let site ← if isTarget e then pure site else site.within .context span
      site.contexts span rest

/-- Refuse asynchronous statements outside of asynchronous functions. -/
def checkAsync (site : Site) (isAsync : Bool) (word : String) (span : Span) : Placed Unit :=
  if isAsync && site.kind ≠ .asyncFunction then .error ⟨.asyncStatement word, span⟩ else .ok ()

/-- The names that an import binds. -/
def checkImports (bound : Alias → String) (span : Span) (names : List Alias) : Placed Unit :=
  names.forM fun a => checkName .store (bound a) span

/-- Look at a simple statement. -/
def simple (site : Site) (span : Span) (kind : SimpleKind) (es : List Expr) : Placed Unit :=
  match kind, es with
  | .augment, [target, value] => site.augment target value
  | .give, _ => site.checkReturn es span
  | .stop, _ => site.leaveToLoop .stopOutsideLoop span
  | .next, _ => site.leaveToLoop .nextOutsideLoop span
  | _, _ => site.exprs false es

/-! ## Statements -/

mutual

/-- Look at a statement. -/
def stmt (site : Site) : Stmt → Placed Unit
  | .function span isAsync name signature returns decorators body => do
      checkParameters signature.parameters span
      site.exprs false decorators
      site.exprs false signature.defaults
      site.exprs false signature.keywordDefaults
      if site.hintsEvaluated then
        site.hints signature [.positional, .positionalOnly, .variadic, .keywordOnly,
          .variadicKeyword]
        site.exprs false returns.toList
      stmts (site.inFunctionOf isAsync body) body
      checkName .store name span
  | .classDef span name bases keywords decorators body => do
      site.exprs false decorators
      stmts (site.inside .classBody) body
      checkNames .repeatedKeyword (fun _ => span) (keywords.filterMap (·.keyword?))
      site.exprs true bases
      site.exprs false keywords
      checkName .store name span
  | .assign _ targets value => do
      site.expr false value
      site.exprs false targets
  | .annotate span target hint value _ => site.annotate span target hint value
  | .expression _ value => site.expr false value
  | .evaluate span kind es => site.simple span kind es
  | .flow span kind header body otherwise => do
      match kind, header with
      | .condition, _ =>
          site.exprs false header
          stmts site body
      | .whileLoop, _ =>
          let within ← site.within .loop span
          within.exprs false header
          stmts within body
      | .forLoop isAsync, [target, iterable] =>
          site.checkAsync isAsync "for" span
          if isAsync then site.expr false iterable
          let within ← site.within .loop span
          within.expr false iterable
          within.expr false target
          stmts within body
      | .forLoop _, _ => pure ()
      | .contexts isAsync, _ =>
          site.checkAsync isAsync "with" span
          stmts (← site.contexts span header) body
      stmts site otherwise
  | .guarded span ofGroups body handlers otherwise final => do
      let outcome := stmts site final
      let outer ← if final.isEmpty then pure site else site.within (.final outcome) span
      if handlers.isEmpty then stmts outer body
      else
        stmts (← outer.within .other span) body
        if !ofGroups then stmts outer otherwise
        let handling := if ofGroups then Block.groupHandlers else .other
        handlersOf (← outer.within handling span) handlers
        if ofGroups then stmts outer otherwise
      outcome
  | .branch _ subject cases => do
      site.expr false subject
      casesOf site cases
  | .importModules span names => checkImports Alias.boundByImport span names
  | .importFrom span origin _ names => do
      if origin = some "__future__" && site.featureLine.all (· < span.line) then
        throw ⟨.lateFuture, span⟩
      checkImports Alias.boundByFrom span names
  | .globals .. => .ok ()
  | .nonlocals .. => .ok ()

/-- Look at statements in order. -/
def stmts (site : Site) : List Stmt → Placed Unit
  | [] => .ok ()
  | s :: rest => do
      stmt site s
      stmts site rest

/-- Look at handlers in order. One for all faults must be the last. -/
def handlersOf (site : Site) : List Handler → Placed Unit
  | [] => .ok ()
  | .mk span type? name body :: rest => do
      if type?.isNone && !rest.isEmpty then throw ⟨.bareHandlerNotLast, span⟩
      site.exprs false type?.toList
      name.toList.forM fun name => checkName .store name span
      stmts (← site.within .other span) body
      handlersOf site rest

/-- Look at cases in order. The pattern of a case fits everything only if it is the last or has a
guard. -/
def casesOf (site : Site) : List Case → Placed Unit
  | [] => .ok ()
  | .mk p guard? body :: rest => do
      discard (site.pattern (guard?.isSome || rest.isEmpty) [] p)
      site.exprs false guard?.toList
      stmts site body
      casesOf site rest

end

end Site

/-- The last line with a statement at the front of a module that asks for features. -/
def featureLine? : List Stmt → Option Nat
  | .importFrom span (some "__future__") _ _ :: rest => (featureLine? rest).or (some span.line)
  | .expression _ (.literal _ (.text _)) :: rest => featureLine? rest
  | _ => none

/-- Find the first construct of a module that may not stand where it stands. -/
def Module.checkPlacement (m : Module) : Placed Unit :=
  let features := (Assay.Source.features false 0 m.body).toOption.getD []
  Site.stmts { hintsEvaluated := !features.contains "annotations",
               featureLine := featureLine? m.body } m.body

end Assay.Source
