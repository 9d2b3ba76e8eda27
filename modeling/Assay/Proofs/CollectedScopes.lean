import Assay.Proofs.Checker
import Assay.Proofs.Collecting

/-! # The scopes of a module

The scopes of a module fit the steps of the walk through it. The collection goes through the parts
of a statement in an order of its own, which only puts the steps into another order, and resolving
names changes neither the tree of the scopes nor their names.
-/

namespace Assay.Check

open Source

namespace Collecting

/-! ## The collection and the steps -/

section Trees

variable {loose : String × Range → Prop} {evaluated : Bool} (file : String)

theorem adds_parameters (ps : List ParameterName) :
    Adds loose evaluated (Collect.parameters ps) 0 fun _ => Step.ofParameters file ps :=
  adds_known (quiet_composes.parameters fun _ _ => quiet_define _ _ _) ps
    fun _ => ⟨_, _, _, .parameter, by decide, rfl⟩

theorem adds_imports (bound : Alias → String) (names mentioned : List Alias) :
    Adds loose evaluated (names.forM (Collect.importAlias bound)) 0
      fun _ => Step.ofAliases file bound mentioned :=
  adds_known
    (quiet_composes.forM fun _ _ => quiet_composes.importAlias fun _ => quiet_define _ _ _)
    mentioned fun _ => ⟨_, _, _, .imported, by decide, rfl⟩

mutual

theorem adds_expr : (e : Expr) →
    Adds loose evaluated (Collect.expr e) e.opened fun n => Step.ofExpr file n e
  | .name span id access => by
      rw [Collect.expr]
      exact adds_name _ _ _ _ _
  | .literal .. => by
      rw [Collect.expr]
      exact quiet_composes.pure _
  | .member _ object _ _ => by
      rw [Collect.expr]
      exact adds_expr object
  | .subscript _ object index _ => by
      rw [Collect.expr]
      exact (adds_expr object).bind fun _ => adds_expr index
  | .starred _ value _ => by
      rw [Collect.expr]
      exact adds_expr value
  | .sequence _ _ items _ => by
      rw [Collect.expr]
      exact adds_exprs items
  | .operation span operator operands => by
      have hoperands := adds_exprs operands
      cases operator <;> rw [Collect.expr]
      case yield | yieldFrom =>
        exact (quiet_composes.notInHint _ _).after fun _ =>
          hoperands.before fun _ => quiet_composes.checkYield _
      case await => exact (quiet_composes.notInHint _ _).after fun _ => hoperands
      all_goals first | exact hoperands | simp
  | .walrus span target value => by
      have hsides := ((adds_expr value).bind fun _ => adds_expr target).perm
        fun n => List.perm_append_comm
      rw [Collect.expr]
      refine (quiet_composes.notInHint _ _).after fun _ => quiet_composes.current.after fun o => ?_
      dsimp only
      suffices htail : Adds loose evaluated _ _ _ by
        split
        · exact (quiet_composes.fault _ _).after fun _ => htail
        · exact htail
      split
      · exact quiet_composes.get.after fun b => (quiet_extendWalrus _ _ _ _).after fun _ => hsides
      · exact hsides
  | .lambda span ps defaults keywordDefaults body => by
      have hscope : Adds loose evaluated _ _ _ :=
        adds_scope (.named .function) "lambda" span.line (by simp) (by simp)
          ((adds_parameters file ps).bind fun _ => adds_expr body)
      have hall := (adds_exprs defaults).bind fun _ =>
        (adds_exprs keywordDefaults).bind fun _ => hscope
      rw [Collect.expr]
      simp only [bind_assoc] at hall
      refine hall.congr ?_ fun n => ?_
      · simp [Expr.opened, Nat.add_assoc]
      · simp [Step.ofExpr, Nat.add_assoc]
  | .comprehension span kind results _ target first conditions further => by
      have hscope : Adds loose evaluated _ _ _ :=
        adds_scope (.comprehension kind) (Collect.scopeName kind) span.line (by simp) (by simp) <|
        (quiet_define ".0" .parameter span.line).after fun _ =>
        (quiet_iterating true).after fun _ => (adds_expr target).bind fun _ =>
        (quiet_iterating false).after fun _ =>
        (adds_exprs conditions).bind fun _ => (adds_clauses further).bind fun _ =>
        adds_exprsBackward results
      have hall := (quiet_iterable (· + 1)).after fun _ => (adds_expr first).bind fun _ =>
        (quiet_iterable (· - 1)).after fun _ => hscope
      rw [Collect.expr]
      simp only [bind_assoc] at hall
      refine hall.congr ?_ fun n => ?_
      · simp [Expr.opened, Nat.add_assoc]
      · simp [Step.ofExpr, Nat.add_assoc]

theorem adds_exprs : (es : List Expr) →
    Adds loose evaluated (Collect.exprs es) (Expr.openedAll es) fun n => Step.ofExprs file n es
  | [] => by
      rw [Collect.exprs]
      exact quiet_composes.pure _
  | e :: es => by
      rw [Collect.exprs]
      exact (adds_expr e).bind fun _ => adds_exprs es

theorem adds_exprsBackward : (es : List Expr) →
    Adds loose evaluated (Collect.exprsBackward es) (Expr.openedAll es)
      fun n => Step.ofResults file n es
  | [] => by
      rw [Collect.exprsBackward]
      exact quiet_composes.pure _
  | e :: es => by
      rw [Collect.exprsBackward, Expr.openedAll, Nat.add_comm]
      exact ((adds_exprsBackward es).bind fun _ => adds_expr e).perm fun n => List.perm_append_comm

theorem adds_clauses : (cs : List Clause) →
    Adds loose evaluated (Collect.clauses cs) (Expr.openedClauses cs)
      fun n => Step.ofClauses file n cs
  | [] => by
      rw [Collect.clauses]
      exact quiet_composes.pure _
  | .mk _ target source conditions :: rest => by
      have hall := (quiet_iterating true).after fun _ => (adds_expr target).bind fun _ =>
        (quiet_iterating false).after fun _ => (quiet_iterable (· + 1)).after fun _ =>
        (adds_expr source).bind fun _ => (quiet_iterable (· - 1)).after fun _ =>
        (adds_exprs conditions).bind fun _ => adds_clauses rest
      rw [Collect.clauses]
      refine hall.congr ?_ fun n => ?_
      · simp [Expr.openedClauses, Nat.add_assoc]
      · simp [Step.ofClauses, Nat.add_assoc]

end

theorem ofExprs_append (n : Nat) (es more : List Expr) :
    Step.ofExprs file n (es ++ more) =
      Step.ofExprs file n es ++ Step.ofExprs file (n + Expr.openedAll es) more := by
  induction es generalizing n with
  | nil => rfl
  | cons e es ih =>
      rw [List.cons_append, Step.ofExprs, ih, Step.ofExprs, Expr.openedAll, List.append_assoc,
        Nat.add_assoc]

/-- The hints of a signature are only put into another order. -/
theorem ofSignature_perm (s : Signature) (n : Nat) :
    (Step.ofExprs file n s.hints).Perm (Step.ofSignature file s n) := by
  simp only [Signature.hints, ofExprs_append, Step.ofSignature, List.append_assoc, Nat.add_assoc]
  refine (List.Perm.append_left _) (List.Perm.append_left _ ?_)
  rw [← List.append_assoc]
  exact List.perm_append_comm

mutual

theorem adds_pattern : (p : Pattern) →
    Adds loose evaluated (Collect.pattern p) p.opened fun n => Step.ofPattern file n p
  | .mk span _ expressions parts binds => by
      have hparts := adds_patterns parts
      have hexpressions : Adds loose evaluated (Collect.exprs expressions) _ _ :=
        adds_exprs file expressions
      cases binds <;> rw [Collect.pattern]
      case none => exact hexpressions.bind fun _ => hparts.before fun _ => quiet_composes.pure _
      case some name => exact hexpressions.bind fun _ => hparts.before fun _ => quiet_define _ _ _

theorem adds_patterns : (ps : List Pattern) →
    Adds loose evaluated (Collect.patterns ps) (Pattern.openedAll ps)
      fun n => Step.ofPatterns file n ps
  | [] => by
      rw [Collect.patterns]
      exact quiet_composes.pure _
  | p :: ps => by
      rw [Collect.patterns]
      exact (adds_pattern p).bind fun _ => adds_patterns ps

end

variable (loose) in
/-- The names at a node and below it that only get hints may be missing. -/
def Loosens (n : Node) : Prop :=
  n.Everywhere fun k => ∀ p ∈ hintedOnly? k, loose (p.1, rangeOf file p.2)

theorem adds_signature (hloose : evaluated = false → ∀ p, loose p) (s : Signature) (line : Nat) :
    Adds loose evaluated (Collect.hints s.hints line) (openedHints evaluated s.hints)
      fun n => Step.ofHints evaluated n (Step.ofSignature file s) :=
  adds_hints hloose ((adds_exprs file s.hints).perm (ofSignature_perm file s))

theorem adds_hint (hloose : evaluated = false → ∀ p, loose p) (hint : Expr) (line : Nat) :
    Adds loose evaluated (Collect.hints [hint] line) (openedHints evaluated [hint])
      fun n => Step.ofHints evaluated n fun n => Step.ofExpr file n hint :=
  adds_hints hloose ((adds_exprs file [hint]).congr rfl fun _ => List.append_nil _)

mutual

theorem adds_stmt (hloose : evaluated = false → ∀ p, loose p) : (s : Stmt) →
    Loosens loose file (.stmt s) →
    Adds loose evaluated (Collect.stmt s) (s.opened evaluated)
      fun n => Step.ofStmt file evaluated n s
  | .function span isAsync name signature returns decorators body, h => by
      have hbody := adds_stmts hloose body fun s hs => h.below (by simp [Node.children, hs])
      have hscope : Adds loose evaluated _ _ _ :=
        adds_scope (.named .function) name span.line (by simp) (by simp)
          ((adds_parameters file (signature.parameters.map (·.toParameterName))).bind
            fun _ => hbody)
      -- the collection goes through the decorators last, the walk goes through them first
      have hlast := (adds_exprs file decorators).bind fun _ => hscope
      have hbefore {rest : Collect Unit} {count : Nat} {L : Nat → List Step}
          (hrest : Adds loose evaluated rest count L) :=
        ((adds_exprs file signature.defaults).bind
          fun _ => (adds_exprs file signature.keywordDefaults).bind
          fun _ => (adds_signature file hloose signature span.line).bind fun _ => hrest).binding
            name .assigned span.line
            (nameRange file span (if isAsync then "async def" else "def") name) true
      simp only [bind_assoc] at hlast
      cases returns <;> rw [Collect.stmt]
      case none =>
        refine ((hbefore hlast).congr ?_ fun n => rfl).perm fun n => ?_
        · simp [Stmt.opened, openedReturns, Nat.add_assoc]
        · simp only [Step.ofStmt, Step.ofReturns, openedReturns, Nat.add_assoc, Nat.add_zero,
            List.append_nil, ← Multiset.coe_eq_coe, ← Multiset.coe_add,
            ← Multiset.cons_coe]
          congr 1
          abel
      case some hint =>
        have hall := hbefore ((adds_hint file hloose hint hint.span.line).bind fun _ => hlast)
        refine (hall.congr ?_ fun n => rfl).perm fun n => ?_
        · simp [Stmt.opened, openedReturns, Nat.add_assoc]
        · simp only [Step.ofStmt, Step.ofReturns, openedReturns, Nat.add_assoc, Nat.add_zero,
            ← Multiset.coe_eq_coe, ← Multiset.coe_add, ← Multiset.cons_coe]
          congr 1
          abel
  | .classDef span name bases keywords decorators body, h => by
      have hbody := adds_stmts hloose body fun s hs => h.below (by simp [Node.children, hs])
      have hall := ((adds_exprs file bases).bind fun _ => (adds_exprs file keywords).bind
        fun _ => (adds_exprs file decorators).bind
        fun _ => adds_classBody name span.line hbody).binding
          name .assigned span.line (nameRange file span "class" name) true
      rw [Collect.stmt]
      refine (hall.congr ?_ fun n => rfl).perm fun n => ?_
      · simp [Stmt.opened, Nat.add_assoc]
      · simp only [Step.ofStmt, Nat.add_assoc, ← Multiset.coe_eq_coe, ← Multiset.coe_add,
          ← Multiset.cons_coe]
        congr 1
        abel
  | .assign _ targets value, h => by
      rw [Collect.stmt]
      exact (adds_exprs file targets).bind fun _ => adds_expr file value
  | .annotate span target hint value bare, h => by
      have hrest := (adds_hint file hloose hint hint.span.line).bind
        fun _ => adds_exprs file value.toList
      by_cases hname : ∃ s id, target = .name s id .store
      · obtain ⟨s, id, rfl⟩ := hname
        have hnamed := hrest.hintedName id s.line (rangeOf file s) bare value.isSome
          fun hbare hvalue => h.here (id, s) (by
            rw [hbare, Option.isSome_eq_false_iff, Option.isNone_iff_eq_none] at *
            rw [hvalue]
            rfl)
        have hwhole : Adds loose evaluated _
            (Stmt.opened evaluated (.annotate span (.name s id .store) hint value bare)) fun n =>
              Step.ofStmt file evaluated n (.annotate span (.name s id .store) hint value bare) :=
          hnamed.congr (by simp [Stmt.opened, Expr.opened])
            fun n => by simp [Step.ofStmt, Step.ofExpr, Expr.opened]
        rw [Collect.stmt]
        refine quiet_composes.get.after fun b => ?_
        dsimp only
        split
        · exact (hwhole.check _ _ _ _).check _ _ _ _
        · exact hwhole
      · rw [Collect.stmt]
        · refine ((adds_expr file target).bind fun _ => hrest).congr ?_ fun n => ?_
          · simp [Stmt.opened, Nat.add_assoc]
          · simp [Step.ofStmt]
        · exact fun s id h => hname ⟨s, id, h⟩
  | .expression _ value, h => by
      rw [Collect.stmt]
      exact adds_expr file value
  | .evaluate _ _ es, h => by
      rw [Collect.stmt]
      exact adds_exprs file es
  | .flow _ _ header body otherwise, h => by
      have hbody := adds_stmts hloose body fun s hs => h.below (by simp [Node.children, hs])
      have hotherwise := adds_stmts hloose otherwise
        fun s hs => h.below (by simp [Node.children, hs])
      have hall := (adds_exprs file header).bind fun _ => hbody.bind fun _ => hotherwise
      rw [Collect.stmt]
      refine hall.congr ?_ fun n => ?_
      · simp [Stmt.opened, Nat.add_assoc]
      · simp [Step.ofStmt]
  | .guarded _ _ body handlers otherwise final, h => by
      have hbody := adds_stmts hloose body fun s hs => h.below (by simp [Node.children, hs])
      have hhandlers := adds_handlersOf hloose handlers
        fun k hk => h.below (by simp [Node.children, hk])
      have hotherwise := adds_stmts hloose otherwise
        fun s hs => h.below (by simp [Node.children, hs])
      have hfinal := adds_stmts hloose final fun s hs => h.below (by simp [Node.children, hs])
      -- the collection goes through the `else` branch before the handlers
      have hall := hbody.bind fun _ => hotherwise.bind fun _ => hhandlers.bind fun _ => hfinal
      rw [Collect.stmt]
      refine (hall.congr ?_ fun n => rfl).perm fun n => ?_
      · simp [Stmt.opened, Nat.add_assoc]
      · simp only [Step.ofStmt, ← Multiset.coe_eq_coe, ← Multiset.coe_add]
        abel
  | .branch _ subject cases, h => by
      have hcases := adds_casesOf hloose cases fun k hk => h.below (by simp [Node.children, hk])
      rw [Collect.stmt]
      exact (adds_expr file subject).bind fun _ => hcases
  | .importModules _ names, h => by
      rw [Collect.stmt]
      exact adds_imports file _ names _
  | .importFrom _ _ _ names, h => by
      rw [Collect.stmt]
      exact adds_imports file _ names _
  | .globals span names, h => by
      rw [Collect.stmt]
      exact quiet_composes.forM fun _ _ =>
        quiet_composes.declare (quiet_define _ _ _) (quiet_direct _ _)
  | .nonlocals span names, h => by
      rw [Collect.stmt]
      exact quiet_composes.forM fun _ _ =>
        quiet_composes.declare (quiet_define _ _ _) (quiet_direct _ _)

theorem adds_stmts (hloose : evaluated = false → ∀ p, loose p) : (ss : List Stmt) →
    (∀ s ∈ ss, Loosens loose file (.stmt s)) →
    Adds loose evaluated (Collect.stmts ss) (Stmt.openedAll evaluated ss)
      fun n => Step.ofStmts file evaluated n ss
  | [], _ => by
      rw [Collect.stmts]
      exact quiet_composes.pure _
  | s :: rest, h => by
      rw [List.forall_mem_cons] at h
      rw [Collect.stmts]
      exact (adds_stmt hloose s h.1).bind fun _ => adds_stmts hloose rest h.2

theorem adds_handlersOf (hloose : evaluated = false → ∀ p, loose p) : (hs : List Handler) →
    (∀ k ∈ hs, Loosens loose file (.handler k)) →
    Adds loose evaluated (Collect.handlersOf hs) (Stmt.openedHandlers evaluated hs)
      fun n => Step.ofHandlers file evaluated n hs
  | [], _ => by
      rw [Collect.handlersOf]
      exact quiet_composes.pure _
  | .mk span type? bound body :: rest, h => by
      rw [List.forall_mem_cons] at h
      have hbody := adds_stmts hloose body fun s hs => h.1.below (by simp [Node.children, hs])
      have hrest := hbody.bind fun _ => adds_handlersOf hloose rest h.2
      cases bound <;> rw [Collect.handlersOf]
      case none =>
        refine ((adds_exprs file type?.toList).bind fun _ => hrest).congr ?_ fun n => ?_
        · simp [Stmt.openedHandlers, Nat.add_assoc]
        · simp [Step.ofHandlers, Step.ofBound]
      case some name =>
        have hall := (adds_exprs file type?.toList).bind fun _ =>
          hrest.binding name .assigned span.line (rangeOf file span) true
        refine (hall.congr ?_ fun n => rfl).perm fun n => ?_
        · simp [Stmt.openedHandlers, Nat.add_assoc]
        · simp only [Step.ofHandlers, Step.ofBound, List.append_assoc, List.singleton_append]
          exact List.perm_middle

theorem adds_casesOf (hloose : evaluated = false → ∀ p, loose p) : (cs : List Case) →
    (∀ k ∈ cs, Loosens loose file (.arm k)) →
    Adds loose evaluated (Collect.casesOf cs) (Stmt.openedCases evaluated cs)
      fun n => Step.ofCases file evaluated n cs
  | [], _ => by
      rw [Collect.casesOf]
      exact quiet_composes.pure _
  | .mk p guard? body :: rest, h => by
      rw [List.forall_mem_cons] at h
      have hbody := adds_stmts hloose body fun s hs => h.1.below (by simp [Node.children, hs])
      have hall := (adds_pattern file p).bind fun _ => (adds_exprs file guard?.toList).bind
        fun _ => hbody.bind fun _ => adds_casesOf hloose rest h.2
      rw [Collect.casesOf]
      refine hall.congr ?_ fun n => ?_
      · simp [Stmt.openedCases, Nat.add_assoc]
      · simp [Step.ofCases]

end

end Trees

end Collecting

/-! ## Resolution -/

/-- What the resolution leaves of a symbol. -/
def outlineOf (s : Symbol) : String × List SymbolRole := (s.name, s.roles)

/-- What the resolution does to a scope: it may get further symbols, which have no roles. -/
structure Settles (frame frame' : ScopeFrame) : Prop where
  id_eq : frame'.id = frame.id
  kind_eq : frame'.kind = frame.kind
  name_eq : frame'.name = frame.name
  line_eq : frame'.line = frame.line
  symbols : ∃ free : List String, frame'.symbols.map outlineOf =
    frame.symbols.map outlineOf ++ free.map fun name => (name, [])

/-- A scope and what is left of it when its names are resolved. -/
inductive Resolved : Scope → Scope → Prop
  | mk {frame frame' : ScopeFrame} {children children' : List Scope} :
      Settles frame frame' → List.Forall₂ Resolved children children' →
      Resolved (.mk frame children) (.mk frame' children')

theorem outline_addSymbol {frame : ScopeFrame} {r r' : Resolution} {s : Symbol}
    (h : r.addSymbol frame s = .ok r') :
    r'.symbols.map outlineOf = r.symbols.map outlineOf ++ [outlineOf s] := by
  unfold Resolution.addSymbol at h
  dsimp only at h
  split at h
  · split at h
    · cases h
    · cases h
      simp [outlineOf]
  · split at h
    · split at h
      · cases h
      · split at h
        · cases h
          simp [outlineOf]
        · cases h
    · split at h
      · cases h
        simp [outlineOf]
      · split at h
        · cases h
          simp [outlineOf]
        · cases h
          simp [outlineOf]

theorem outline_addSymbols {frame : ScopeFrame} {ss : List Symbol} {r r' : Resolution}
    (h : Resolution.addSymbols frame r ss = .ok r') :
    r'.symbols.map outlineOf = r.symbols.map outlineOf ++ ss.map outlineOf := by
  induction ss generalizing r with
  | nil =>
      cases h
      simp
  | cons s rest ih =>
      rw [Resolution.addSymbols] at h
      obtain ⟨r₁, hs, h⟩ := Attempt.of_bind_eq_ok h
      rw [ih h, outline_addSymbol hs, List.append_assoc, List.map_cons, List.singleton_append]

theorem outline_passOn (bound : Option (List String)) (free : List String) (symbols : List Symbol) :
    ∃ names : List String, (passOn bound free symbols).map outlineOf =
      symbols.map outlineOf ++ names.map fun name => (name, []) := by
  unfold passOn
  induction free generalizing symbols with
  | nil => exact ⟨[], by simp⟩
  | cons name free ih =>
      rw [List.foldl_cons]
      split
      · exact ih _
      · split
        · exact ih _
        · obtain ⟨names, hnames⟩ := ih (symbols ++ [{ name, roles := [], binding := .free }])
          exact ⟨name :: names, by rw [hnames]; simp [outlineOf]⟩

mutual

theorem resolved_of_resolve : (s : Scope) → ∀ {around s' free},
    Scope.resolve around s = .ok (s', free) → Resolved s s'
  | .mk frame children, around, s', free, h => by
      rw [Scope.resolve] at h
      obtain ⟨r, hr, h⟩ := Attempt.of_bind_eq_ok h
      obtain ⟨⟨children', below⟩, hchildren, h⟩ := Attempt.of_bind_eq_ok h
      have hsymbols : r.symbols.map outlineOf = frame.symbols.map outlineOf := outline_addSymbols hr
      refine (?_ : ∀ symbols' below', symbols'.map outlineOf = r.symbols.map outlineOf →
        s' = .mk { frame with symbols := passOn r.around.bound below' symbols' } children' →
        Resolved (.mk frame children) s') _ _ ?_ (congrArg Prod.fst (Except.ok.inj h)).symm
      · rintro symbols' below' hsymbols' rfl
        obtain ⟨names, hnames⟩ := outline_passOn r.around.bound below' symbols'
        exact .mk ⟨rfl, rfl, rfl, rfl, names, by rw [hnames, hsymbols', hsymbols]⟩
          (resolved_of_resolveAll children hchildren)
      -- in a function the symbols that inner scopes need become cells, with the same names and roles
      · cases frame.kind with
        | module | classBody => rfl
        | function =>
            dsimp only
            rw [List.map_map]
            refine List.map_congr_left fun s _ => ?_
            rw [Function.comp]
            split <;> rfl

theorem resolved_of_resolveAll : (ss : List Scope) → ∀ {around ss' free},
    Scope.resolveAll around ss = .ok (ss', free) → List.Forall₂ Resolved ss ss'
  | [], around, ss', free, h => by
      rw [Scope.resolveAll] at h
      cases h
      exact .nil
  | s :: rest, around, ss', free, h => by
      rw [Scope.resolveAll] at h
      obtain ⟨⟨s', free⟩, hs, h⟩ := Attempt.of_bind_eq_ok h
      obtain ⟨⟨rest', others⟩, hrest, h⟩ := Attempt.of_bind_eq_ok h
      cases h
      exact .cons (resolved_of_resolve s hs) (resolved_of_resolveAll rest hrest)

end

/-! ## Fitting scopes of modules -/

theorem Settles.names {frame frame' : ScopeFrame} (h : Settles frame frame') :
    namesOf frame ⊆ namesOf frame' := by
  obtain ⟨free, hsymbols⟩ := h.symbols
  have hnames := congrArg (List.map Prod.fst) hsymbols
  rw [List.map_append, List.map_map, List.map_map] at hnames
  rw [namesOf, namesOf]
  exact hnames ▸ List.subset_append_left _ _

theorem Settles.ownerWithin_eq {frame frame' : ScopeFrame} (h : Settles frame frame')
    (owner : Option String) : ownerWithin owner frame' = ownerWithin owner frame := by
  rw [ownerWithin, ownerWithin, h.kind_eq, h.name_eq]

theorem idsOf_resolved {scopes scopes' : List Scope} (h : List.Forall₂ Resolved scopes scopes') :
    idsOf scopes' = idsOf scopes := by
  induction h with
  | nil => rfl
  | cons hs _ ih =>
      obtain ⟨hsettles, _⟩ := hs
      exact congrArg₂ List.cons hsettles.id_eq ih

theorem exists_resolved {scopes scopes' : List Scope} (h : List.Forall₂ Resolved scopes scopes')
    {s : Scope} (hs : s ∈ scopes) : ∃ s' ∈ scopes', Resolved s s' := by
  induction h with
  | nil => cases hs
  | cons ht _ ih =>
      rcases List.mem_cons.mp hs with rfl | hs
      · exact ⟨_, List.mem_cons_self, ht⟩
      · obtain ⟨s', hs', hres⟩ := ih hs
        exact ⟨s', List.mem_cons_of_mem _ hs', hres⟩

section Fitting

variable {loose : String × Range → Prop}

mutual

theorem fits_resolved : (s : Step) → ∀ {owner names names' scopes scopes'},
    s.Fits loose owner names scopes → names ⊆ names' → List.Forall₂ Resolved scopes scopes' →
    s.Fits loose owner names' scopes'
  | .mention .., _, _, _, _, _, h, hnames, _ =>
      ⟨h.1, fun hscope => (h.2 hscope).imp_right fun hmem => hnames hmem⟩
  | .into none _ _ _, _, _, _, _, _, _, _, _ => trivial
  | .into (some id) name line inside, _, _, _, _, _, h, _, hscopes => by
      obtain ⟨s, hs, hid, hname, hline, hfit, hbelong, hnumbered⟩ := h
      obtain ⟨s', hs', hres⟩ := exists_resolved hscopes hs
      obtain ⟨hsettles, hchildren⟩ := hres
      refine ⟨_, hs', hsettles.id_eq.trans hid, hsettles.name_eq.trans hname,
        hsettles.line_eq.trans hline, ?_, ?_, ?_⟩
      · rw [Scope.frame, hsettles.ownerWithin_eq]
        exact allFit_resolved inside hfit hsettles.names hchildren
      · rw [Belong, Scope.children, idsOf_resolved hchildren]
        exact hbelong
      · rw [Numbered, Scope.children, idsOf_resolved hchildren]
        exact hnumbered

theorem allFit_resolved : (steps : List Step) → ∀ {owner names names' scopes scopes'},
    Step.AllFit loose owner names scopes steps → names ⊆ names' →
    List.Forall₂ Resolved scopes scopes' → Step.AllFit loose owner names' scopes' steps
  | [], _, _, _, _, _, _, _, _ => trivial
  | s :: rest, _, _, _, _, _, h, hnames, hscopes =>
      ⟨fits_resolved s h.1 hnames hscopes, allFit_resolved rest h.2 hnames hscopes⟩

end

end Fitting

/-- A scope and the scopes inside it fit some steps. -/
structure Fitting (loose : String × Range → Prop) (owner : Option String) (scope : Scope)
    (steps : List Step) : Prop where
  fit : Step.AllFit loose owner (namesOf scope.frame) scope.children steps
  belong : Belong scope.children steps
  numbered : Numbered scope.children

/-- Whether a module asks for a feature. -/
def asksFor (m : Module) (feature : String) : Bool :=
  ((features false 0 m.body).toOption.getD []).contains feature

/-- Whether the hints of a module are evaluated. -/
def hintsEvaluated (m : Module) : Bool := !asksFor m "annotations"

/-- The scopes of a module fit the steps of the walk through it, and no two steps go into the same
scope. -/
theorem fitting_ofModule {m : Module} {top : Scope} (h : Scope.ofModule m = .ok top) (file : String)
    (loose : String × Range → Prop) (hloose : hintsEvaluated m = false → ∀ p, loose p)
    (hhinted : ∀ k ∈ m.nodes, ∀ p ∈ hintedOnly? k, loose (p.1, rangeOf file p.2)) :
    top.frame.kind = .module ∧
      Fitting loose none top (Step.ofModule file (hintsEvaluated m) m) ∧
      (Step.numbers (Step.ofModule file (hintsEvaluated m) m)).Nodup ∧
      (hintsEvaluated m → Step.traced (Step.ofModule file (hintsEvaluated m) m)) := by
  rw [Scope.ofModule] at h
  obtain ⟨asked, hasked, h⟩ := Attempt.of_bind_eq_ok h
  obtain ⟨⟨_, b⟩, hrun, h⟩ := Attempt.of_bind_eq_ok h
  have hevaluated : hintsEvaluated m = !asked.contains "annotations" := by
    rw [hintsEvaluated, asksFor, hasked]
    rfl
  have hadded := Collecting.adds_stmts file hloose m.body (fun s hs k hk => hhinted k
    (List.mem_flatMap.mpr ⟨s, hs, hk⟩)) _ _ _ hrun (List.cons_ne_nil _ _) hevaluated.symm
  obtain ⟨o, rest, o', rest', new, ho, hb, hext⟩ := hadded.stack
  cases ho
  dsimp only at h
  rw [hb] at h
  obtain ⟨⟨s, free⟩, hs, h⟩ := Attempt.of_bind_eq_ok h
  cases h
  obtain ⟨hsettles, hchildren⟩ := resolved_of_resolve _ hs
  have hnew : o'.children = new := hext.children_eq
  rw [hnew] at hchildren
  refine ⟨hsettles.kind_eq.trans hext.grows.kind_eq,
    ⟨allFit_resolved _ hext.fit hsettles.names hchildren, ?_, ?_⟩, hadded.nodup,
    fun hhints => hadded.traced (hevaluated.symm.trans hhints)⟩
  · rw [Belong, Scope.children, idsOf_resolved hchildren]
    exact hext.belong
  · rw [Numbered, Scope.children, idsOf_resolved hchildren]
    exact hext.numbered

/-! ## The scopes inside a scope -/

mutual

/-- A scope and the scopes inside it, each with the class whose private names are spelled with its
name there. -/
def owned (owner : Option String) : Scope → List (Option String × Scope)
  | .mk frame children =>
      (ownerWithin owner frame, .mk frame children) :: ownedAll (ownerWithin owner frame) children

/-- Scopes and the scopes inside them. -/
def ownedAll (owner : Option String) : List Scope → List (Option String × Scope)
  | [] => []
  | s :: rest => owned owner s ++ ownedAll owner rest

end

theorem mem_owned_self (owner : Option String) (s : Scope) :
    (ownerWithin owner s.frame, s) ∈ owned owner s := by
  cases s
  exact List.mem_cons_self

theorem mem_ownedAll {owner : Option String} {s : Scope} {scopes : List Scope} (hs : s ∈ scopes) :
    (ownerWithin owner s.frame, s) ∈ ownedAll owner scopes := by
  induction scopes with
  | nil => cases hs
  | cons t rest ih =>
      rw [ownedAll, List.mem_append]
      rcases List.mem_cons.mp hs with rfl | hs
      · exact .inl (mem_owned_self owner s)
      · exact .inr (ih hs)

theorem exists_of_mem_ownedAll {owner : Option String} {p : Option String × Scope}
    {scopes : List Scope} (h : p ∈ ownedAll owner scopes) : ∃ s ∈ scopes, p ∈ owned owner s := by
  induction scopes with
  | nil => cases h
  | cons s rest ih =>
      rw [ownedAll, List.mem_append] at h
      rcases h with h | h
      · exact ⟨s, List.mem_cons_self, h⟩
      · obtain ⟨t, ht, hp⟩ := ih h
        exact ⟨t, List.mem_cons_of_mem _ ht, hp⟩

mutual

theorem mem_owned_of_child : (top : Scope) → ∀ {owner within s t}, (within, s) ∈ owned owner top →
    t ∈ s.children → (ownerWithin within t.frame, t) ∈ owned owner top
  | .mk frame children, owner, within, s, t, h, ht => by
      rw [owned] at h ⊢
      rcases List.mem_cons.mp h with heq | h
      · cases heq
        exact List.mem_cons_of_mem _ (mem_ownedAll ht)
      · exact List.mem_cons_of_mem _ (mem_ownedAll_of_child children h ht)

theorem mem_ownedAll_of_child : (scopes : List Scope) → ∀ {owner within s t},
    (within, s) ∈ ownedAll owner scopes → t ∈ s.children →
    (ownerWithin within t.frame, t) ∈ ownedAll owner scopes
  | [], _, _, _, _, h, _ => by cases h
  | u :: rest, owner, within, s, t, h, ht => by
      rw [ownedAll, List.mem_append] at h ⊢
      exact h.imp (mem_owned_of_child u · ht) (mem_ownedAll_of_child rest · ht)

end

/-! ## Checked files -/

/-- A file that is checked has the uses of its module and of the scopes of this module. -/
theorem ofModule_of_checkFile {file source : String} {m : Module} {c : CheckResults}
    (hm : (parseFile file source).tree = some m)
    (hc : (checkFile (parseFile file source)).value = some c) :
    Scope.ofModule m = .ok c.scopes ∧ c.uses = usesOf file c.scopes m := by
  rw [checkFile, hm] at hc
  dsimp only at hc
  split at hc
  · cases hc
  · rename_i top htop
    cases hc
    rw [parseFile_file]
    exact ⟨htop, rfl⟩

end Assay.Check
