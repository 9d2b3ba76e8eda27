import Assay.Proofs.LockStep
import Mathlib.Logic.Relation

/-! # The stack of open scopes

The walk hands the scope that it is in down to the constructs inside. A collector keeps the open
scopes on a stack instead: it pushes the scope of a construct where it goes into it, pops it at the
end of the construct, and does neither where it finds no scope. Whatever nodes are visited, and
whatever the scopes are, it records and enters what the walk does, and its stack is in the end what
it was before. In between, the stack only stands higher, on scopes that are entered for the first
time and that are children of those below them.
-/

namespace Assay.Check

open Source

/-! ## Visits -/

namespace Walk

/-- Visit a node. The names of imports are recorded with their statement, not by themselves. -/
def visit (site : Site) : Node → Walk → Walk
  | .stmt s, w => stmt site s w
  | .handler h, w => handlersOf site [h] w
  | .arm c, w => casesOf site [c] w
  | .pattern p, w => pattern site p w
  | .expr e, w => expr site e w
  | .clause c, w => clauses site [c] w
  | .parameter p, w => parameters site [p.toParameterName] w
  | .imported _, w | .member _, w => w

/-- Visit nodes in order. -/
def visitAll (site : Site) (nodes : List Node) (w : Walk) : Walk :=
  nodes.foldl (fun w n => visit site n w) w

theorem visitAll_stmts (site : Site) (ss : List Stmt) (w : Walk) :
    visitAll site (ss.map .stmt) w = stmts site ss w := by
  induction ss generalizing w with
  | nil => rfl
  | cons s rest ih => exact ih _

end Walk

namespace Step

/-- The steps through a node. Which tables are made for its constructs does not matter here. -/
def ofNode (file : String) : Node → List Step
  | .stmt s => ofStmt file true 1 s
  | .handler h => ofHandlers file true 1 [h]
  | .arm c => ofCases file true 1 [c]
  | .pattern p => ofPattern file 1 p
  | .expr e => ofExpr file 1 e
  | .clause c => ofClauses file 1 [c]
  | .parameter p => ofParameters file [p.toParameterName]
  | .imported _ | .member _ => []

end Step

namespace Walk

theorem visit_eq_play (site : Site) (n : Node) (w : Walk) :
    visit site n w = play site (Step.ofNode site.file n) w := by
  cases n with
  | stmt s => exact stmt_eq_play true site s 1 w
  | handler h => exact handlersOf_eq_play true site [h] 1 w
  | arm c => exact casesOf_eq_play true site [c] 1 w
  | pattern p => exact pattern_eq_play site p 1 w
  | expr e => exact expr_eq_play site e 1 w
  | clause c => exact clauses_eq_play site [c] 1 w
  | parameter p => exact parameters_eq_play site [p.toParameterName] w
  | imported _ | member _ => rfl

theorem visitAll_eq_play (site : Site) (nodes : List Node) (w : Walk) :
    visitAll site nodes w = play site (nodes.flatMap (Step.ofNode site.file)) w := by
  induction nodes generalizing w with
  | nil => rfl
  | cons n nodes ih =>
      rw [List.flatMap_cons, play_append, ← visit_eq_play, ← ih]
      rfl

end Walk

/-! ## Collectors -/

/-- What a collector has to do: take a step, or leave the scope that it is in. -/
inductive Task where
  | take (s : Step)
  | leave

/-- Whether a scope is left. -/
def Task.isLeave : Task → Bool
  | take _ => false
  | leave => true

/-- A moment of a collector: its stack of open scopes, the innermost first, what it has recorded and
entered, and what it has to do. -/
structure Moment where
  stack : List Scope
  walk : Walk
  agenda : List Task

namespace Moment

section Moves

variable (file : String) (top : Scope)

/-- What is seen from a scope. -/
def seenFrom (s : Scope) : Site := { file, top, inner := [s] }

/-- What happens from one moment to the next. -/
inductive Moves : Moment → Moment → Prop where
  | mention {s : Scope} {below : List Scope} {w : Walk} {name : String} {range : Range}
      {isDefinition : Bool} {scope : Option UseScope} {rest : List Task} :
      Moves ⟨s :: below, w, .take (.mention name range isDefinition scope) :: rest⟩
        ⟨s :: below,
          w.record file name range isDefinition (scope.getD ((seenFrom file top s).classify name)),
          rest⟩
  | enter {s entered : Scope} {below : List Scope} {w : Walk} {table : Option Nat} {name : String}
      {line : Nat} {inside : List Step} {rest : List Task}
      (h : w.chosen? (seenFrom file top s) name line = some entered) :
      Moves ⟨s :: below, w, .take (.into table name line inside) :: rest⟩
        ⟨entered :: s :: below, { w with claimed := entered.frame.id :: w.claimed },
          inside.map .take ++ .leave :: rest⟩
  -- a construct without a scope is gone through in the scope around it, with nothing to leave
  | pass {s : Scope} {below : List Scope} {w : Walk} {table : Option Nat} {name : String}
      {line : Nat} {inside : List Step} {rest : List Task}
      (h : w.chosen? (seenFrom file top s) name line = none) :
      Moves ⟨s :: below, w, .take (.into table name line inside) :: rest⟩
        ⟨s :: below, w, inside.map .take ++ rest⟩
  | leave {s : Scope} {below : List Scope} {w : Walk} {rest : List Task} :
      Moves ⟨s :: below, w, .leave :: rest⟩ ⟨below, w, rest⟩

/-- One moment comes before another, or is the same. -/
abbrev Reaches : Moment → Moment → Prop := Relation.ReflTransGen (Moves file top)

/-- A scope is pushed on the stack from one moment to the next. -/
def Pushes (m : Moment) (s : Scope) (m' : Moment) : Prop :=
  Moves file top m m' ∧ m'.stack = s :: m.stack

end Moves

/-! ## The stack -/

/-- Scopes that stand one inside the other, the innermost first: each is a child of the one below
it. -/
def Nested (stack : List Scope) : Prop := stack.IsChain fun s below => s ∈ below.children

/-- A stack of open scopes: they are nested, and the lowest one is that of the module. -/
structure IsStack (top : Scope) (stack : List Scope) : Prop where
  nested : Nested stack
  bottom : stack.getLast? = some top

theorem isStack_singleton (top : Scope) : IsStack top [top] := ⟨.singleton top, rfl⟩

theorem IsStack.of_suffix {top : Scope} {base stack : List Scope} (h : IsStack top base)
    (hbase : base <:+ stack) (hnested : Nested stack) : IsStack top stack := by
  obtain ⟨above, rfl⟩ := hbase
  refine ⟨hnested, ?_⟩
  rw [List.getLast?_append, h.bottom, Option.some_or]

/-- The number of scopes that are still to be left. -/
def leaves (agenda : List Task) : Nat := agenda.countP Task.isLeave

@[simp] theorem leaves_take (s : Step) (rest : List Task) :
    leaves (.take s :: rest) = leaves rest := rfl

@[simp] theorem leaves_leave (rest : List Task) : leaves (.leave :: rest) = leaves rest + 1 :=
  List.countP_cons_of_pos rfl

@[simp] theorem leaves_takes (steps : List Step) (rest : List Task) :
    leaves (steps.map .take ++ rest) = leaves rest := by
  induction steps with
  | nil => rfl
  | cons s steps ih => exact ih

variable {file : String} {top : Scope} {base : List Scope} {start m m' n : Moment} {s : Scope}

/-- What holds while nodes are visited that found a stack: the stack stands on that one, higher by
as many scopes as are still to be left, and no scope was entered twice. -/
structure Kept (base : List Scope) (m : Moment) : Prop where
  nested : Nested m.stack
  suffix : base <:+ m.stack
  height : m.stack.length = base.length + leaves m.agenda
  nodup : m.walk.claimed.Nodup

theorem Kept.move (h : Kept base m) (hm : Moves file top m m') : Kept base m' := by
  cases hm with
  | mention => exact ⟨h.nested, h.suffix, h.height, h.nodup⟩
  | enter hchosen =>
      obtain ⟨hchild, hfree⟩ := Walk.chosen?_free hchosen
      refine ⟨.cons_cons hchild h.nested, h.suffix.trans (List.suffix_cons _ _), ?_,
        List.nodup_cons.mpr ⟨hfree, h.nodup⟩⟩
      have hheight := h.height
      simp only [leaves_take, leaves_takes, leaves_leave, List.length_cons] at hheight ⊢
      omega
  | pass =>
      refine ⟨h.nested, h.suffix, ?_, h.nodup⟩
      rw [leaves_takes]
      exact h.height
  | leave =>
      have hheight := h.height
      simp only [leaves_leave, List.length_cons] at hheight
      refine ⟨?_, ?_, by dsimp only; omega, h.nodup⟩
      · cases h.nested with
        | singleton => exact .nil
        | cons_cons _ hbelow => exact hbelow
      · rcases List.suffix_cons_iff.mp h.suffix with rfl | hsuffix
        · -- the scope that is left was entered since
          rw [List.length_cons] at hheight
          omega
        · exact hsuffix

theorem Kept.reaches (h : Kept base m) (hm : Reaches file top m n) : Kept base n := by
  induction hm with
  | refl => exact h
  | tail _ hmove ih => exact ih.move hmove

/-- What was recorded and entered stays so, whatever is done next. -/
structure Lasts (m n : Moment) : Prop where
  recorded : m.walk.recorded <:+ n.walk.recorded
  claimed : m.walk.claimed <:+ n.walk.claimed

theorem Moves.lasts (h : Moves file top m n) : Lasts m n := by
  cases h with
  | mention => exact ⟨List.suffix_cons _ _, List.suffix_rfl⟩
  | enter => exact ⟨List.suffix_rfl, List.suffix_cons _ _⟩
  | pass | leave => exact ⟨List.suffix_rfl, List.suffix_rfl⟩

theorem lasts_of_reaches (h : Reaches file top m n) : Lasts m n := by
  induction h with
  | refl => exact ⟨List.suffix_rfl, List.suffix_rfl⟩
  | tail _ hmove ih =>
      exact ⟨ih.recorded.trans hmove.lasts.recorded, ih.claimed.trans hmove.lasts.claimed⟩

theorem Pushes.claimed (h : Pushes file top m s m') :
    s.frame.id ∉ m.walk.claimed ∧ m'.walk.claimed = s.frame.id :: m.walk.claimed := by
  obtain ⟨hmove, hstack⟩ := h
  cases hmove with
  | mention => exact absurd hstack.symm (List.cons_ne_self _ _)
  | enter hchosen =>
      obtain ⟨rfl, -⟩ := List.cons.inj hstack
      exact ⟨(Walk.chosen?_free hchosen).2, rfl⟩
  | pass => exact absurd hstack.symm (List.cons_ne_self _ _)
  | leave =>
      have := congrArg List.length hstack
      simp only [List.length_cons] at this
      omega

/-! ## The way to the end -/

theorem rightUnique_moves : Relator.RightUnique (Moves file top) := by
  intro m n n' hn hn'
  cases hn with
  | mention =>
      cases hn'
      rfl
  | enter hchosen =>
      cases hn' with
      | enter hchosen' =>
          obtain rfl := Option.some_inj.mp (hchosen.symm.trans hchosen')
          rfl
      | pass hnone => cases hchosen.symm.trans hnone
  | pass hnone =>
      cases hn' with
      | enter hchosen => cases hchosen.symm.trans hnone
      | pass => rfl
  | leave =>
      cases hn'
      rfl

theorem not_moves_of_nil {stack : List Scope} {w : Walk} : ¬Moves file top ⟨stack, w, []⟩ m := by
  intro h
  cases h

/-- If a moment comes to an end, so do all moments behind it, in the same way. -/
theorem reaches_end {stack : List Scope} {w : Walk} (hend : Reaches file top start ⟨stack, w, []⟩)
    (hm : Reaches file top start m) : Reaches file top m ⟨stack, w, []⟩ := by
  rcases Relation.ReflTransGen.total_of_right_unique rightUnique_moves hm hend with h | h
  · exact h
  · rcases Relation.ReflTransGen.cases_head h with rfl | ⟨n, hn, -⟩
    · exact .refl
    · exact absurd hn not_moves_of_nil

/-! ## Agreement with the walk -/

/-- The stack at a site. -/
def stackAt (site : Site) : List Scope := site.inner ++ [site.top]

theorem exists_stackAt_eq (site : Site) : ∃ below, stackAt site = site.current :: below := by
  unfold stackAt Site.current
  cases site.inner with
  | nil => exact ⟨[], rfl⟩
  | cons s rest => exact ⟨rest ++ [site.top], rfl⟩

section Site

variable {site : Site} {w : Walk} {table : Option Nat} {name : String} {line : Nat}
  {inside : List Step} {rest : List Task}

theorem mention_stackAt {range : Range} {isDefinition : Bool} {scope : Option UseScope} :
    Moves site.file site.top
      ⟨stackAt site, w, .take (.mention name range isDefinition scope) :: rest⟩
      ⟨stackAt site,
        Walk.playStep site (.mention name range isDefinition scope) w, rest⟩ := by
  obtain ⟨below, hstack⟩ := exists_stackAt_eq site
  rw [hstack]
  exact .mention

theorem enter_stackAt (h : w.chosen? site name line = some s) :
    Moves site.file site.top ⟨stackAt site, w, .take (.into table name line inside) :: rest⟩
      ⟨stackAt { site with inner := s :: site.inner },
        { w with claimed := s.frame.id :: w.claimed },
        inside.map .take ++ .leave :: rest⟩ := by
  obtain ⟨below, hstack⟩ := exists_stackAt_eq site
  have hwithin : stackAt { site with inner := s :: site.inner } = s :: stackAt site := rfl
  rw [hwithin, hstack]
  exact .enter h

theorem pass_stackAt (h : w.chosen? site name line = none) :
    Moves site.file site.top ⟨stackAt site, w, .take (.into table name line inside) :: rest⟩
      ⟨stackAt site, w, inside.map .take ++ rest⟩ := by
  obtain ⟨below, hstack⟩ := exists_stackAt_eq site
  rw [hstack]
  exact .pass h

end Site

mutual

/-- A collector does with a step what the walk does. -/
theorem reaches_playStep (site : Site) : (s : Step) → (w : Walk) → (rest : List Task) →
    Reaches site.file site.top ⟨stackAt site, w, .take s :: rest⟩
      ⟨stackAt site, Walk.playStep site s w, rest⟩
  | .mention .., _, _ => .single mention_stackAt
  | .into table name line inside, w, rest => by
      rw [Walk.playStep]
      -- the scope is left exactly if one is found, since only then the task to leave it is added
      cases hchosen : w.chosen? site name line with
      | none =>
          rw [Walk.enter_none hchosen]
          exact .head (pass_stackAt hchosen) (reaches_play site inside w rest)
      | some s =>
          rw [Walk.enter_some hchosen]
          have hinside := reaches_play { site with inner := s :: site.inner } inside
            { w with claimed := s.frame.id :: w.claimed } (.leave :: rest)
          exact .head (enter_stackAt hchosen) (hinside.tail .leave)

/-- A collector does with steps what the walk does, and its stack is what it was. -/
theorem reaches_play (site : Site) : (steps : List Step) → (w : Walk) → (rest : List Task) →
    Reaches site.file site.top ⟨stackAt site, w, steps.map .take ++ rest⟩
      ⟨stackAt site, Walk.play site steps w, rest⟩
  | [], _, _ => .refl
  | s :: steps, w, rest =>
      (reaches_playStep site s w _).trans (reaches_play site steps _ rest)

end

/-! ## Whole visits -/

/-- The moment at which nodes begin to be visited. -/
def visiting (file : String) (stack : List Scope) (w : Walk) (nodes : List Node) : Moment :=
  ⟨stack, w, (nodes.flatMap (Step.ofNode file)).map .take⟩

theorem IsStack.stackAt_eq {stack : List Scope} (h : IsStack top stack) (file : String) :
    stackAt { file, top, inner := stack.dropLast } = stack :=
  List.dropLast_append_getLast? top (Option.mem_def.mpr h.bottom)

theorem reaches_visitAll {stack : List Scope} (h : IsStack top stack) (file : String) (w : Walk)
    (nodes : List Node) : Reaches file top (visiting file stack w nodes)
      ⟨stack, Walk.visitAll { file, top, inner := stack.dropLast } nodes w, []⟩ := by
  have hplay := reaches_play { file, top, inner := stack.dropLast }
    (nodes.flatMap (Step.ofNode file)) w []
  rw [List.append_nil, h.stackAt_eq, ← Walk.visitAll_eq_play] at hplay
  exact hplay

theorem kept_visiting {stack : List Scope} {w : Walk} (h : IsStack top stack)
    (hclaimed : w.claimed.Nodup) (file : String) (nodes : List Node) :
    Kept stack (visiting file stack w nodes) where
  nested := h.nested
  suffix := List.suffix_rfl
  height := by
    have hleaves := leaves_takes (nodes.flatMap (Step.ofNode file)) []
    rw [List.append_nil] at hleaves
    rw [visiting, hleaves]
    rfl
  nodup := hclaimed

/-- The uses of a module are what a new collector has recorded when it has visited the statements,
and then only the scope of the module is open. -/
theorem usesOf_of_reaches {tree : Module} {stack : List Scope} {w : Walk}
    (h : Reaches file top (visiting file [top] {} (tree.body.map .stmt)) ⟨stack, w, []⟩) :
    stack = [top] ∧ usesOf file top tree = w.recorded.reverse := by
  have hend := reaches_end (reaches_visitAll (isStack_singleton top) file {} _) h
  rw [Walk.visitAll_stmts] at hend
  rcases Relation.ReflTransGen.cases_head hend with heq | ⟨_, hmove, -⟩
  · obtain ⟨hstack, hw, -⟩ := Moment.mk.inj heq
    rw [hw]
    exact ⟨hstack, rfl⟩
  · exact absurd hmove not_moves_of_nil

/-- What holds at a moment of visits that began with a stack and a walk. The newest use and the
scope that was entered last stand first. -/
structure Disciplined (top : Scope) (stack : List Scope) (w : Walk) (m : Moment) : Prop where
  isStack : IsStack top m.stack
  base : stack <:+ m.stack
  recorded : w.recorded <:+ m.walk.recorded
  claimed : w.claimed <:+ m.walk.claimed
  nodup : m.walk.claimed.Nodup

/-- What holds of the visits to nodes that begin with a stack and a walk. -/
structure KeepsStack (file : String) (top : Scope) (stack : List Scope) (w : Walk)
    (nodes : List Node) : Prop where
  /-- From every moment the visits come to the same end: the stack is what it was, and recorded and
  entered is what the walk records and enters. -/
  ends : ∀ m, Reaches file top (visiting file stack w nodes) m →
    Reaches file top m ⟨stack, Walk.visitAll { file, top, inner := stack.dropLast } nodes w, []⟩
  moments : ∀ m, Reaches file top (visiting file stack w nodes) m → Disciplined top stack w m
  /-- No two constructs push one scope, and none pushes a scope that was entered before. -/
  pushed : ∀ m s n, Reaches file top (visiting file stack w nodes) m → Pushes file top m s n →
    s.frame.id ∉ w.claimed ∧
      ∀ m' s' n', Reaches file top n m' → Pushes file top m' s' n' → s'.frame.id ≠ s.frame.id

/-- Whatever nodes are visited and whatever the scopes are, the stack is kept. What is assumed of
the stack and of the scopes that were entered holds of a new collector, which has only the scope of
the module on its stack and has entered none, and so at every later moment. -/
theorem visits_keep_stack (file : String) {top : Scope} {stack : List Scope} {w : Walk}
    (hstack : IsStack top stack) (hclaimed : w.claimed.Nodup) (nodes : List Node) :
    KeepsStack file top stack w nodes where
  ends m hm := reaches_end (reaches_visitAll hstack file w nodes) hm
  moments m hm := by
    have hkept := (kept_visiting hstack hclaimed file nodes).reaches hm
    have hlasts := lasts_of_reaches hm
    exact ⟨hstack.of_suffix hkept.suffix hkept.nested, hkept.suffix, hlasts.recorded,
      hlasts.claimed, hkept.nodup⟩
  pushed m s n hm hpush := by
    obtain ⟨hfree, hclaimed⟩ := hpush.claimed
    refine ⟨fun hmem => hfree ((lasts_of_reaches hm).claimed.subset hmem), ?_⟩
    intro m' s' n' hm' hpush' heq
    have hmem : s.frame.id ∈ n.walk.claimed := by
      rw [hclaimed]
      exact List.mem_cons_self
    exact hpush'.claimed.1 (heq ▸ (lasts_of_reaches hm').claimed.subset hmem)

/-- Inside a function that was entered, one of two lambdas finds a scope and the other does not. -/
theorem visits_keep_stack_lambdas :
    let f : Scope := .mk { id := 1, kind := .function, name := "f", line := 1 }
      [.mk { id := 2, kind := .function, name := "lambda", line := 2 } []]
    let top : Scope := .mk { id := 0, kind := .module, name := "top", line := 0 } [f]
    let lambdas : Node := .expr (.lambda ⟨2, 0, 2, 17⟩ [] [] [] (.lambda ⟨2, 8, 2, 17⟩ [] [] []
      (.name ⟨2, 16, 2, 17⟩ "x" .load)))
    IsStack top [f, top] ∧ [1].Nodup ∧ KeepsStack "m.py" top [f, top] { claimed := [1] } [lambdas] ∧
      (Walk.visitAll { file := "m.py", top, inner := [f] } [lambdas] { claimed := [1] }).claimed =
        [2, 1] := by
  intro f top lambdas
  have hstack : IsStack top [f, top] :=
    ⟨.cons_cons (List.mem_singleton_self f) (.singleton top), rfl⟩
  have hclaimed : [1].Nodup := List.nodup_singleton 1
  exact ⟨hstack, hclaimed, visits_keep_stack "m.py" hstack hclaimed [lambdas], by decide⟩

end Moment

end Assay.Check
