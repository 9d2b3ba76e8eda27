import Assay.Check.Use

/-! # The walk in steps

The walk through a module mentions names and goes into constructs that open scopes. Which of them
come, and in which order, does not depend on the scopes that it finds, so that the walk is a list of
steps that is played on some scopes. A step into a construct has the number of the table that was
made for this very construct: scopes are numbered in the order in which they are collected, which is
not everywhere the order of the walk.
-/

namespace Assay.Source

/-! ## Numbers of scopes -/

namespace Expr

mutual

/-- The number of scopes that are opened to collect the symbols of an expression. -/
def opened : Expr → Nat
  | name .. | literal .. => 0
  | member _ object _ _ => opened object
  | subscript _ object index _ => opened object + opened index
  | starred _ value _ => opened value
  | sequence _ _ items _ => openedAll items
  | operation _ _ operands => openedAll operands
  | walrus _ target value => opened value + opened target
  | lambda _ _ defaults keywordDefaults body =>
      openedAll defaults + openedAll keywordDefaults + (opened body + 1)
  | comprehension _ _ results _ target iterable conditions further =>
      opened iterable +
        (opened target + openedAll conditions + openedClauses further + openedAll results + 1)

/-- The number of scopes of expressions. -/
def openedAll : List Expr → Nat
  | [] => 0
  | e :: es => opened e + openedAll es

/-- The number of scopes of further clauses. -/
def openedClauses : List Clause → Nat
  | [] => 0
  | .mk _ target iterable conditions :: rest =>
      opened target + opened iterable + openedAll conditions + openedClauses rest

end

end Expr

namespace Pattern

mutual

/-- The number of scopes of a pattern. -/
def opened : Pattern → Nat
  | mk _ _ expressions parts _ => Expr.openedAll expressions + openedAll parts

/-- The number of scopes of patterns. -/
def openedAll : List Pattern → Nat
  | [] => 0
  | p :: ps => opened p + openedAll ps

end

end Pattern

/-- The number of scopes of hints. Those that are not evaluated have a scope around them. -/
def openedHints (evaluated : Bool) (hints : List Expr) : Nat :=
  if evaluated then Expr.openedAll hints else Expr.openedAll hints + 1

/-- The number of scopes of the hint for what a function returns. -/
def openedReturns (evaluated : Bool) : Option Expr → Nat
  | some hint => openedHints evaluated [hint]
  | none => 0

namespace Signature

/-- The hints of a signature in the order in which they are collected. -/
def hints (s : Signature) : List Expr :=
  Collect.hintsOf s [.positionalOnly] ++ Collect.hintsOf s [.positional] ++
    Collect.hintsOf s [.variadic] ++ Collect.hintsOf s [.variadicKeyword] ++
    Collect.hintsOf s [.keywordOnly]

end Signature

namespace Stmt

mutual

/-- The number of scopes of a statement. -/
def opened (evaluated : Bool) : Stmt → Nat
  | function _ _ _ signature returns decorators body =>
      Expr.openedAll signature.defaults + Expr.openedAll signature.keywordDefaults +
        openedHints evaluated signature.hints + openedReturns evaluated returns +
        Expr.openedAll decorators + (openedAll evaluated body + 1)
  | classDef _ _ bases keywords decorators body =>
      Expr.openedAll bases + Expr.openedAll keywords + Expr.openedAll decorators +
        (openedAll evaluated body + 1)
  | assign _ targets value => Expr.openedAll targets + value.opened
  | annotate _ target hint value _ =>
      target.opened + openedHints evaluated [hint] + Expr.openedAll value.toList
  | expression _ value => value.opened
  | evaluate _ _ es => Expr.openedAll es
  | flow _ _ header body otherwise =>
      Expr.openedAll header + openedAll evaluated body + openedAll evaluated otherwise
  | guarded _ _ body handlers otherwise final =>
      openedAll evaluated body + openedAll evaluated otherwise +
        openedHandlers evaluated handlers + openedAll evaluated final
  | branch _ subject cases => subject.opened + openedCases evaluated cases
  | importModules .. | importFrom .. | globals .. | nonlocals .. => 0

/-- The number of scopes of statements. -/
def openedAll (evaluated : Bool) : List Stmt → Nat
  | [] => 0
  | s :: rest => opened evaluated s + openedAll evaluated rest

/-- The number of scopes of handlers. -/
def openedHandlers (evaluated : Bool) : List Handler → Nat
  | [] => 0
  | .mk _ type? _ body :: rest =>
      Expr.openedAll type?.toList + openedAll evaluated body + openedHandlers evaluated rest

/-- The number of scopes of cases. -/
def openedCases (evaluated : Bool) : List Case → Nat
  | [] => 0
  | .mk p guard? body :: rest =>
      p.opened + Expr.openedAll guard?.toList + openedAll evaluated body +
        openedCases evaluated rest

end

end Stmt

end Assay.Source

namespace Assay.Check

open Source

/-! ## Steps -/

/-- A step of the walk: it mentions a name, whose scope may be known from where it stands, or goes
into a construct that opens a scope. The table of the construct is the number of the scope that was
made for it, if one was made. -/
inductive Step where
  | mention (name : String) (range : Range) (isDefinition : Bool) (scope : Option UseScope)
  | into (table : Option Nat) (name : String) (line : Nat) (inside : List Step)

namespace Step

mutual

/-- The step through a construct whose scopes leave no trace. -/
def untraced : Step → Step
  | mention name range isDefinition scope => mention name range isDefinition scope
  | into _ name line inside => into none name line (untracedAll inside)

/-- The steps through constructs whose scopes leave no trace. -/
def untracedAll : List Step → List Step
  | [] => []
  | s :: rest => untraced s :: untracedAll rest

end

/-- The mentions of parameters. -/
def ofParameters (file : String) (ps : List ParameterName) : List Step :=
  ps.map fun p => mention p.name (rangeOf file p.span) true (some .parameter)

/-- The mentions of what an import binds. -/
def ofAliases (file : String) (bound : Alias → String) (names : List Alias) : List Step :=
  names.map fun a => mention (bound a) (rangeOf file a.span) true (some .imported)

variable (file : String)

mutual

/-- The steps through an expression. The number is that of the next scope when its symbols are
collected. -/
def ofExpr (n : Nat) : Expr → List Step
  | .name span id access => [mention id (rangeOf file span) (access ≠ .load) none]
  | .literal .. => []
  | .member _ object _ _ => ofExpr n object
  | .subscript _ object index _ => ofExpr n object ++ ofExpr (n + object.opened) index
  | .starred _ value _ => ofExpr n value
  | .sequence _ _ items _ => ofExprs n items
  | .operation _ _ operands => ofExprs n operands
  | .walrus _ target value => ofExpr (n + value.opened) target ++ ofExpr n value
  | .lambda span ps defaults keywordDefaults body =>
      let own := n + Expr.openedAll defaults + Expr.openedAll keywordDefaults
      ofExprs n defaults ++ ofExprs (n + Expr.openedAll defaults) keywordDefaults ++
        [into (some own) "lambda" span.line (ofParameters file ps ++ ofExpr (own + 1) body)]
  | .comprehension span kind results _ target iterable conditions further =>
      let own := n + iterable.opened
      let afterTarget := own + 1 + target.opened
      let afterConditions := afterTarget + Expr.openedAll conditions
      ofExpr n iterable ++
        [into (some own) (Collect.scopeName kind) span.line
          (ofExpr (own + 1) target ++ ofExprs afterTarget conditions ++
            ofClauses afterConditions further ++
            ofResults (afterConditions + Expr.openedClauses further) results)]

/-- The steps through expressions. -/
def ofExprs (n : Nat) : List Expr → List Step
  | [] => []
  | e :: es => ofExpr n e ++ ofExprs (n + e.opened) es

/-- The steps through the results of a comprehension, which are collected from the last to the
first. -/
def ofResults (n : Nat) : List Expr → List Step
  | [] => []
  | e :: es => ofExpr (n + Expr.openedAll es) e ++ ofResults n es

/-- The steps through further clauses. -/
def ofClauses (n : Nat) : List Clause → List Step
  | [] => []
  | .mk _ target iterable conditions :: rest =>
      let afterTarget := n + target.opened
      let afterIterable := afterTarget + iterable.opened
      let afterConditions := afterIterable + Expr.openedAll conditions
      ofExpr n target ++ ofExpr afterTarget iterable ++ ofExprs afterIterable conditions ++
        ofClauses afterConditions rest

end

mutual

/-- The steps through a pattern. -/
def ofPattern (n : Nat) : Pattern → List Step
  | .mk _ _ expressions parts _ =>
      ofExprs file n expressions ++ ofPatterns (n + Expr.openedAll expressions) parts

/-- The steps through patterns. -/
def ofPatterns (n : Nat) : List Pattern → List Step
  | [] => []
  | p :: ps => ofPattern n p ++ ofPatterns (n + p.opened) ps

end

/-- The steps through hints, given as those from a number on. -/
def ofHints (evaluated : Bool) (n : Nat) (steps : Nat → List Step) : List Step :=
  if evaluated then steps n else untracedAll (steps (n + 1))

/-- The steps through the hints of a signature. The walk visits those of variadic parameters last,
the collection those of parameters that are only given by name. -/
def ofSignature (s : Signature) (n : Nat) : List Step :=
  let positional := n + Expr.openedAll (Collect.hintsOf s [.positionalOnly])
  let variadic := positional + Expr.openedAll (Collect.hintsOf s [.positional])
  let variadicKeyword := variadic + Expr.openedAll (Collect.hintsOf s [.variadic])
  let keywordOnly := variadicKeyword + Expr.openedAll (Collect.hintsOf s [.variadicKeyword])
  ofExprs file n (Collect.hintsOf s [.positionalOnly]) ++
    ofExprs file positional (Collect.hintsOf s [.positional]) ++
    ofExprs file keywordOnly (Collect.hintsOf s [.keywordOnly]) ++
    ofExprs file variadic (Collect.hintsOf s [.variadic]) ++
    ofExprs file variadicKeyword (Collect.hintsOf s [.variadicKeyword])

variable (evaluated : Bool)

/-- The steps through the hint for what a function returns. -/
def ofReturns (n : Nat) : Option Expr → List Step
  | some hint => ofHints evaluated n fun n => ofExpr file n hint
  | none => []

/-- The mention of the name that a handler binds. -/
def ofBound (span : Span) : Option String → List Step
  | some name => [mention name (rangeOf file span) true none]
  | none => []

mutual

/-- The steps through a statement. -/
def ofStmt (n : Nat) : Stmt → List Step
  | .function span isAsync name signature returns decorators body =>
      let keyword := if isAsync then "async def" else "def"
      let afterDefaults := n + Expr.openedAll signature.defaults
      let afterKeywords := afterDefaults + Expr.openedAll signature.keywordDefaults
      let afterHints := afterKeywords + openedHints evaluated signature.hints
      let afterReturns := afterHints + openedReturns evaluated returns
      let own := afterReturns + Expr.openedAll decorators
      mention name (nameRange file span keyword name) true none ::
        (ofExprs file afterReturns decorators ++ ofExprs file n signature.defaults ++
          ofExprs file afterDefaults signature.keywordDefaults ++
          ofHints evaluated afterKeywords (ofSignature file signature) ++
          ofReturns file evaluated afterHints returns ++
          [into (some own) name span.line
            (ofParameters file (signature.parameters.map (·.toParameterName)) ++
              ofStmts (own + 1) body)])
  | .classDef span name bases keywords decorators body =>
      let afterBases := n + Expr.openedAll bases
      let afterKeywords := afterBases + Expr.openedAll keywords
      let own := afterKeywords + Expr.openedAll decorators
      mention name (nameRange file span "class" name) true none ::
        (ofExprs file afterKeywords decorators ++ ofExprs file n bases ++
          ofExprs file afterBases keywords ++
          [into (some own) name span.line (ofStmts (own + 1) body)])
  | .assign _ targets value =>
      ofExprs file n targets ++ ofExpr file (n + Expr.openedAll targets) value
  | .annotate _ target hint value _ =>
      let afterTarget := n + target.opened
      ofExpr file n target ++ ofHints evaluated afterTarget (fun n => ofExpr file n hint) ++
        ofExprs file (afterTarget + openedHints evaluated [hint]) value.toList
  | .expression _ value => ofExpr file n value
  | .evaluate _ _ es => ofExprs file n es
  | .flow _ _ header body otherwise =>
      let afterHeader := n + Expr.openedAll header
      ofExprs file n header ++ ofStmts afterHeader body ++
        ofStmts (afterHeader + Stmt.openedAll evaluated body) otherwise
  | .guarded _ _ body handlers otherwise final =>
      let afterBody := n + Stmt.openedAll evaluated body
      let afterOtherwise := afterBody + Stmt.openedAll evaluated otherwise
      ofStmts n body ++ ofHandlers afterOtherwise handlers ++ ofStmts afterBody otherwise ++
        ofStmts (afterOtherwise + Stmt.openedHandlers evaluated handlers) final
  | .branch _ subject cases => ofExpr file n subject ++ ofCases (n + subject.opened) cases
  | .importModules _ names => ofAliases file Alias.boundByImport names
  | .importFrom _ _ _ names =>
      ofAliases file Alias.boundByFrom (names.filter fun a => !a.isStar)
  | .globals .. | .nonlocals .. => []

/-- The steps through statements. -/
def ofStmts (n : Nat) : List Stmt → List Step
  | [] => []
  | s :: rest => ofStmt n s ++ ofStmts (n + s.opened evaluated) rest

/-- The steps through handlers. -/
def ofHandlers (n : Nat) : List Handler → List Step
  | [] => []
  | .mk span type? bound body :: rest =>
      let afterType := n + Expr.openedAll type?.toList
      let afterBody := afterType + Stmt.openedAll evaluated body
      ofBound file span bound ++ ofExprs file n type?.toList ++ ofStmts afterType body ++
        ofHandlers afterBody rest

/-- The steps through cases. -/
def ofCases (n : Nat) : List Case → List Step
  | [] => []
  | .mk p guard? body :: rest =>
      let afterPattern := n + p.opened
      let afterGuard := afterPattern + Expr.openedAll guard?.toList
      let afterBody := afterGuard + Stmt.openedAll evaluated body
      ofPattern file n p ++ ofExprs file afterPattern guard?.toList ++ ofStmts afterGuard body ++
        ofCases afterBody rest

end

/-- The steps through a module. The scope of the module itself has the first number. -/
def ofModule (m : Module) : List Step := ofStmts file evaluated 1 m.body

end Step

/-! ## Playing steps -/

namespace Walk

mutual

/-- Take a step. -/
def playStep (site : Site) : Step → Walk → Walk
  | .mention name range isDefinition scope, w =>
      w.record site.file name range isDefinition (scope.getD (site.classify name))
  | .into _ name line inside, w =>
      let (within, w) := w.enter site name line
      play within inside w

/-- Take steps in order. -/
def play (site : Site) : List Step → Walk → Walk
  | [], w => w
  | s :: rest, w => play site rest (playStep site s w)

end

@[simp] theorem play_nil (site : Site) (w : Walk) : play site [] w = w := rfl

@[simp] theorem play_cons (site : Site) (s : Step) (rest : List Step) (w : Walk) :
    play site (s :: rest) w = play site rest (playStep site s w) := rfl

@[simp] theorem play_append (site : Site) (first second : List Step) (w : Walk) :
    play site (first ++ second) w = play site second (play site first w) := by
  induction first generalizing w with
  | nil => rfl
  | cons s rest ih => exact ih (playStep site s w)

@[simp] theorem enter_file (w : Walk) (site : Site) (name : String) (line : Nat) :
    (w.enter site name line).1.file = site.file := by
  unfold enter
  dsimp only
  split <;> rfl

mutual

/-- Which table a construct has is not seen by the walk. -/
theorem playStep_untraced (site : Site) : (s : Step) → (w : Walk) →
    playStep site s.untraced w = playStep site s w
  | .mention .., _ => rfl
  | .into _ name line inside, w => by
      rw [Step.untraced, playStep, playStep]
      exact play_untracedAll _ inside _

theorem play_untracedAll (site : Site) : (steps : List Step) → (w : Walk) →
    play site (Step.untracedAll steps) w = play site steps w
  | [], _ => rfl
  | s :: rest, w => by
      rw [Step.untracedAll, play_cons, play_cons, playStep_untraced site s w]
      exact play_untracedAll site rest _

end

theorem play_ofHints (site : Site) (evaluated : Bool) {steps : Nat → List Step}
    {visit : Walk → Walk}
    (h : ∀ n w, visit w = play site (steps n) w) (n : Nat) (w : Walk) :
    play site (Step.ofHints evaluated n steps) w = visit w := by
  unfold Step.ofHints
  split
  · exact (h n w).symm
  · rw [play_untracedAll, h]

theorem parameters_eq_play (site : Site) (ps : List ParameterName) (w : Walk) :
    parameters site ps w = play site (Step.ofParameters site.file ps) w := by
  induction ps generalizing w with
  | nil => rfl
  | cons p ps ih => exact ih _

theorem imports_eq_play (site : Site) (bound : Alias → String) (names : List Alias) (w : Walk) :
    imports site bound names w = play site (Step.ofAliases site.file bound names) w := by
  induction names generalizing w with
  | nil => rfl
  | cons a names ih => exact ih _

mutual

theorem expr_eq_play (site : Site) : (e : Expr) → (n : Nat) → (w : Walk) →
    expr site e w = play site (Step.ofExpr site.file n e) w
  | .name .., _, _ | .literal .., _, _ => rfl
  | .member _ object _ _, n, w | .starred _ object _, n, w => expr_eq_play site object n w
  | .subscript _ object index _, n, w => by
      rw [expr, Step.ofExpr, play_append, ← expr_eq_play site object, ← expr_eq_play site index]
  | .sequence _ _ es _, n, w | .operation _ _ es, n, w => exprs_eq_play site es n w
  | .walrus _ target value, n, w => by
      rw [expr, Step.ofExpr, play_append, ← expr_eq_play site target, ← expr_eq_play site value]
  | .lambda span ps defaults keywordDefaults body, n, w => by
      rw [expr, Step.ofExpr, play_append, play_append, ← exprs_eq_play site defaults,
        ← exprs_eq_play site keywordDefaults, play_cons, playStep, play_nil]
      dsimp only
      rw [play_append, ← enter_file _ site "lambda" span.line, ← parameters_eq_play,
        ← expr_eq_play _ body]
  | .comprehension span kind results _ target iterable conditions further, n, w => by
      rw [expr, Step.ofExpr, play_append, ← expr_eq_play site iterable, play_cons, playStep,
        play_nil]
      dsimp only
      rw [play_append, play_append, play_append,
        ← enter_file _ site (Collect.scopeName kind) span.line, ← expr_eq_play _ target,
        ← exprs_eq_play _ conditions, ← clauses_eq_play _ further, ← results_eq_play _ results]

theorem exprs_eq_play (site : Site) : (es : List Expr) → (n : Nat) → (w : Walk) →
    exprs site es w = play site (Step.ofExprs site.file n es) w
  | [], _, _ => rfl
  | e :: es, n, w => by
      rw [exprs, Step.ofExprs, play_append, ← expr_eq_play site e, ← exprs_eq_play site es]

theorem results_eq_play (site : Site) : (es : List Expr) → (n : Nat) → (w : Walk) →
    exprs site es w = play site (Step.ofResults site.file n es) w
  | [], _, _ => rfl
  | e :: es, n, w => by
      rw [exprs, Step.ofResults, play_append, ← expr_eq_play site e, ← results_eq_play site es]

theorem clauses_eq_play (site : Site) : (cs : List Clause) → (n : Nat) → (w : Walk) →
    clauses site cs w = play site (Step.ofClauses site.file n cs) w
  | [], _, _ => rfl
  | .mk _ target iterable conditions :: rest, n, w => by
      rw [clauses, Step.ofClauses, play_append, play_append, play_append,
        ← expr_eq_play site target, ← expr_eq_play site iterable, ← exprs_eq_play site conditions,
        ← clauses_eq_play site rest]

end

mutual

theorem pattern_eq_play (site : Site) : (p : Pattern) → (n : Nat) → (w : Walk) →
    pattern site p w = play site (Step.ofPattern site.file n p) w
  | .mk _ _ expressions parts _, n, w => by
      rw [pattern, Step.ofPattern, play_append, ← exprs_eq_play, ← patterns_eq_play site parts]

theorem patterns_eq_play (site : Site) : (ps : List Pattern) → (n : Nat) → (w : Walk) →
    patterns site ps w = play site (Step.ofPatterns site.file n ps) w
  | [], _, _ => rfl
  | p :: ps, n, w => by
      rw [patterns, Step.ofPatterns, play_append, ← pattern_eq_play site p,
        ← patterns_eq_play site ps]

end

theorem exprs_append (site : Site) (first second : List Expr) (w : Walk) :
    exprs site (first ++ second) w = exprs site second (exprs site first w) := by
  induction first generalizing w with
  | nil => rfl
  | cons e es ih => exact ih _

theorem hintsOf_eq_play (site : Site) (s : Signature) (n : Nat) (w : Walk) :
    exprs site (hintsOf s) w = play site (Step.ofSignature site.file s n) w := by
  simp only [Step.ofSignature, play_append, ← exprs_eq_play]
  simp only [← exprs_append]
  rfl

variable (evaluated : Bool)

theorem returns_eq_play (site : Site) (returns : Option Expr) (n : Nat) (w : Walk) :
    exprs site returns.toList w = play site (Step.ofReturns site.file evaluated n returns) w := by
  cases returns with
  | none => rfl
  | some hint => exact (play_ofHints site evaluated (expr_eq_play site hint) n w).symm

mutual

theorem stmt_eq_play (site : Site) : (s : Stmt) → (n : Nat) → (w : Walk) →
    stmt site s w = play site (Step.ofStmt site.file evaluated n s) w
  | .function span isAsync name signature returns decorators body, n, w => by
      rw [stmt, Step.ofStmt, play_cons, playStep]
      simp only [play_append, play_cons, play_nil, ← exprs_eq_play, ← returns_eq_play,
        play_ofHints site evaluated (hintsOf_eq_play site signature), playStep, Option.getD_none]
      rw [parameters_eq_play, stmts_eq_play _ body, enter_file]
  | .classDef span name bases keywords decorators body, n, w => by
      rw [stmt, Step.ofStmt, play_cons, playStep]
      simp only [play_append, play_cons, play_nil, ← exprs_eq_play, playStep, Option.getD_none]
      rw [stmts_eq_play _ body, enter_file]
  | .assign _ targets value, n, w => by
      rw [stmt, Step.ofStmt, play_append, ← exprs_eq_play, ← expr_eq_play]
  | .annotate _ target hint value _, n, w => by
      rw [stmt, Step.ofStmt, play_append, play_append, ← expr_eq_play, ← exprs_eq_play,
        play_ofHints site evaluated (expr_eq_play site hint)]
  | .expression _ value, n, w => expr_eq_play site value n w
  | .evaluate _ _ es, n, w => exprs_eq_play site es n w
  | .flow _ _ header body otherwise, n, w => by
      rw [stmt, Step.ofStmt, play_append, play_append, ← exprs_eq_play, ← stmts_eq_play site body,
        ← stmts_eq_play site otherwise]
  | .guarded _ _ body handlers otherwise final, n, w => by
      rw [stmt, Step.ofStmt, play_append, play_append, play_append, ← stmts_eq_play site body,
        ← handlersOf_eq_play site handlers, ← stmts_eq_play site otherwise,
        ← stmts_eq_play site final]
  | .branch _ subject cases, n, w => by
      rw [stmt, Step.ofStmt, play_append, ← expr_eq_play, ← casesOf_eq_play site cases]
  | .importModules _ names, n, w => imports_eq_play site _ names w
  | .importFrom _ _ _ names, n, w => imports_eq_play site _ _ w
  | .globals .., _, _ | .nonlocals .., _, _ => rfl

theorem stmts_eq_play (site : Site) : (ss : List Stmt) → (n : Nat) → (w : Walk) →
    stmts site ss w = play site (Step.ofStmts site.file evaluated n ss) w
  | [], _, _ => rfl
  | s :: rest, n, w => by
      rw [stmts, Step.ofStmts, play_append, ← stmt_eq_play site s, ← stmts_eq_play site rest]

theorem handlersOf_eq_play (site : Site) : (hs : List Handler) → (n : Nat) → (w : Walk) →
    handlersOf site hs w = play site (Step.ofHandlers site.file evaluated n hs) w
  | [], _, _ => rfl
  | .mk span type? bound body :: rest, n, w => by
      rw [Step.ofHandlers, play_append, play_append, play_append, ← exprs_eq_play,
        ← stmts_eq_play site body, ← handlersOf_eq_play site rest]
      cases bound <;> rfl

theorem casesOf_eq_play (site : Site) : (cs : List Case) → (n : Nat) → (w : Walk) →
    casesOf site cs w = play site (Step.ofCases site.file evaluated n cs) w
  | [], _, _ => rfl
  | .mk p guard? body :: rest, n, w => by
      rw [casesOf, Step.ofCases, play_append, play_append, play_append, ← pattern_eq_play,
        ← exprs_eq_play, ← stmts_eq_play site body, ← casesOf_eq_play site rest]

end

end Walk

/-- The uses of a module are what is recorded while its steps are played. -/
theorem usesOf_eq_play (evaluated : Bool) (file : String) (top : Scope) (m : Module) :
    usesOf file top m =
      (Walk.play { file, top } (Step.ofModule file evaluated m) {}).recorded.reverse := by
  rw [usesOf, Walk.stmts_eq_play evaluated _ m.body 1]
  rfl

end Assay.Check
