import Assay.Logged
import Assay.Source.Scope.Resolve
import Mathlib.Data.List.Forall2

/-! # Runs of the collection

The primitives of the collection only let the open scopes grow: they may get symbols, but none is
opened, closed or renamed unless the collection goes into a construct or comes out of it. A property
that composes, and that holds of the primitives, holds of what is built from them.
-/

namespace Assay.Source

/-- The names of the symbols of a scope. -/
def namesOf (frame : ScopeFrame) : List String := frame.symbols.map (·.name)

@[simp] theorem add_name (s : Symbol) (role : SymbolRole) : (s.add role).name = s.name := by
  unfold Symbol.add
  split <;> rfl

theorem names_subset_addRole (name : String) (role : SymbolRole) (symbols : List Symbol) :
    symbols.map (·.name) ⊆ (addRole name role symbols).map (·.name) := by
  induction symbols with
  | nil => exact List.nil_subset _
  | cons s rest ih =>
      rw [addRole]
      split
      · rw [List.map_cons, List.map_cons, add_name]
        exact List.Subset.refl _
      · exact List.cons_subset_cons _ ih

theorem mem_names_addRole (name : String) (role : SymbolRole) (symbols : List Symbol) :
    name ∈ (addRole name role symbols).map (·.name) := by
  induction symbols with
  | nil => exact List.mem_singleton_self name
  | cons s rest ih =>
      rw [addRole]
      split
      · rename_i hname
        rw [List.map_cons, add_name, eq_of_beq hname]
        exact List.mem_cons_self
      · exact List.mem_cons_of_mem _ ih

/-! ## Growing scopes -/

/-- What a visit does to an open scope: it may only get further symbols and scopes inside. -/
structure Grows (o o' : OpenScope) : Prop where
  id_eq : o'.frame.id = o.frame.id
  kind_eq : o'.frame.kind = o.frame.kind
  name_eq : o'.frame.name = o.frame.name
  line_eq : o'.frame.line = o.frame.line
  openKind_eq : o'.kind = o.kind
  names : namesOf o.frame ⊆ namesOf o'.frame

theorem Grows.refl (o : OpenScope) : Grows o o := ⟨rfl, rfl, rfl, rfl, rfl, List.Subset.refl _⟩

theorem Grows.trans {o p q : OpenScope} (h : Grows o p) (h' : Grows p q) : Grows o q :=
  ⟨h'.id_eq.trans h.id_eq, h'.kind_eq.trans h.kind_eq, h'.name_eq.trans h.name_eq,
    h'.line_eq.trans h.line_eq, h'.openKind_eq.trans h.openKind_eq,
    List.Subset.trans h.names h'.names⟩

theorem Grows.withChildren {o o' : OpenScope} (h : Grows o o') (children : List Scope) :
    Grows o { o' with children } :=
  ⟨h.id_eq, h.kind_eq, h.name_eq, h.line_eq, h.openKind_eq, h.names⟩

/-- What a visit does to the scopes around the one that it is in: they get no scopes inside. -/
def Waits (o o' : OpenScope) : Prop := Grows o o' ∧ o'.children = o.children

theorem Waits.refl (o : OpenScope) : Waits o o := ⟨.refl o, rfl⟩

theorem Waits.trans {o p q : OpenScope} (h : Waits o p) (h' : Waits p q) : Waits o q :=
  ⟨h.1.trans h'.1, h'.2.trans h.2⟩

instance : Std.Refl Grows := ⟨.refl⟩

instance : IsTrans OpenScope Grows := ⟨fun _ _ _ => Grows.trans⟩

instance : Std.Refl Waits := ⟨.refl⟩

instance : IsTrans OpenScope Waits := ⟨fun _ _ _ => Waits.trans⟩

theorem forall₂_trans {α : Type} {R : α → α → Prop} [IsTrans α R] {as bs cs : List α}
    (h : List.Forall₂ R as bs) (h' : List.Forall₂ R bs cs) : List.Forall₂ R as cs := by
  induction h generalizing cs with
  | nil => exact h'
  | cons hab _ ih =>
      obtain ⟨c, rest, hbc, hrest, rfl⟩ := List.forall₂_cons_left_iff.mp h'
      exact .cons (IsTrans.trans _ _ _ hab hbc) (ih hrest)

theorem waits_symbols {o : OpenScope} {symbols : List Symbol}
    (h : namesOf o.frame ⊆ symbols.map (·.name)) :
    Waits o { o with frame := { o.frame with symbols } } :=
  ⟨⟨rfl, rfl, rfl, rfl, rfl, h⟩, rfl⟩

/-- A scope in which a name gets a role has the name. -/
theorem waits_define {o o' : OpenScope} {written name : String} {role : SymbolRole} {line : Nat}
    (h : o.define written name role line = .ok o') : Waits o o' ∧ name ∈ namesOf o'.frame := by
  have hadded := names_subset_addRole name role o.frame.symbols
  have hmem := mem_names_addRole name role o.frame.symbols
  unfold OpenScope.define at h
  dsimp only at h
  split at h
  · cases h
  · split at h
    · split at h
      · cases h
      · cases h
        have hiterated := names_subset_addRole name .iterated (addRole name role o.frame.symbols)
        exact ⟨waits_symbols (List.Subset.trans hadded hiterated), hiterated hmem⟩
    · cases h
      exact ⟨waits_symbols hadded, hmem⟩

theorem waits_declareAtTop (name : String) (os : List OpenScope) :
    List.Forall₂ Waits os (Collect.declareAtTop name os) := by
  induction os with
  | nil => exact .nil
  | cons o rest ih =>
      cases rest with
      | nil => exact .cons (waits_symbols (names_subset_addRole _ _ _)) .nil
      | cons p rest => exact .cons (.refl o) ih

theorem waits_modifyAt {f : OpenScope → Except LocatedFault OpenScope}
    (hf : ∀ o o', f o = .ok o' → Waits o o') {depth : Nat} {os os' : List OpenScope}
    (h : Collect.modifyAt f depth os = .ok os') : List.Forall₂ Waits os os' := by
  induction os generalizing depth os' with
  | nil =>
      rw [Collect.modifyAt] at h
      cases h
      exact .nil
  | cons o rest ih =>
      cases depth with
      | zero =>
          rw [Collect.modifyAt] at h
          obtain ⟨o', ho, h⟩ := Attempt.of_bind_eq_ok h
          cases h
          exact .cons (hf o o' ho) (List.forall₂_refl rest)
      | succ depth =>
          rw [Collect.modifyAt] at h
          obtain ⟨rest', hrest, h⟩ := Attempt.of_bind_eq_ok h
          cases h
          exact .cons (.refl o) (ih hrest)

/-- A scope as it is opened. -/
structure Fresh (b : ScopeBuilder) (kind : OpenKind) (name : String) (line : Nat) (o : OpenScope) :
    Prop where
  id_eq : o.frame.id = b.count
  name_eq : o.frame.name = name
  line_eq : o.frame.line = line
  children_eq : o.children = []
  symbols_eq : o.frame.symbols = []
  kind_eq : o.kind = kind
  classBody_iff : o.frame.kind = .classBody ↔ kind = .named .classBody

/-- The state behind the opening of a scope. -/
def opened (b : ScopeBuilder) (o : OpenScope) (owner : Option String) : ScopeBuilder :=
  { b with stack := o :: b.stack, count := b.count + 1, privateTo := owner }

/-- The state behind the closing of a scope, where the class around is spelled out again. -/
def closed (b : ScopeBuilder) (o : OpenScope) (rest : List OpenScope) (owner : Option String) :
    ScopeBuilder :=
  { b with stack := o :: rest, privateTo := owner }

namespace Collect

/-! ## Runs that give a result -/

section Runs

variable {α β : Type} {b b' : ScopeBuilder}

theorem run_bind_ok {x : Collect α} {f : α → Collect β} {r : β × ScopeBuilder}
    (h : (x >>= f).run b = .ok r) :
    ∃ a b', x.run b = .ok (a, b') ∧ (f a).run b' = .ok r := by
  rw [StateT.run_bind] at h
  obtain ⟨p, hx, hf⟩ := Attempt.of_bind_eq_ok h
  exact ⟨p.1, p.2, hx, hf⟩

theorem run_modifyCurrent {o : OpenScope} {rest : List OpenScope} (ho : b.stack = o :: rest)
    (f : OpenScope → OpenScope) :
    (modifyCurrent f).run b = .ok ((), { b with stack := f o :: rest }) := by
  simp [modifyCurrent, ho]
  rfl

theorem run_defineAt_ok {depth : Nat} {name : String} {role : SymbolRole} {line : Nat} {u : Unit}
    (h : (defineAt depth name role line).run b = .ok (u, b')) :
    ∃ stack, modifyAt (·.define name (mangle b.privateTo name) role line) depth b.stack = .ok stack ∧
      b' = { b with stack := if role = .globalDeclared then
        declareAtTop (mangle b.privateTo name) stack else stack } := by
  unfold defineAt at h
  cases hat : modifyAt (·.define name (mangle b.privateTo name) role line) depth b.stack with
  | error fault => simp [hat] at h
  | ok stack =>
      simp [hat] at h
      exact ⟨stack, rfl, h.symm⟩

theorem run_enter (kind : OpenKind) (name : String) (line : Nat) (b : ScopeBuilder) :
    ∃ o, Fresh b kind name line o ∧
      (enter kind name line).run b = .ok ((), opened b o b.privateTo) := by
  refine ⟨_, ⟨rfl, rfl, rfl, rfl, rfl, rfl, ?_⟩, rfl⟩
  cases kind <;> simp

/-- A part of the collection that is run in a scope of its own. -/
theorem run_scope_ok {kind : OpenKind} {name : String} {line : Nat} {body : Collect Unit} {u : Unit}
    (h : (do
      enter kind name line
      body
      leave : Collect Unit).run b = .ok (u, b')) :
    ∃ o b₁, Fresh b kind name line o ∧ body.run (opened b o b.privateTo) = .ok ((), b₁) ∧
      leave.run b₁ = .ok (u, b') := by
  obtain ⟨o, hfresh, henter⟩ := run_enter kind name line b
  obtain ⟨_, b₁, hrun₁, h⟩ := run_bind_ok h
  rw [henter] at hrun₁
  cases hrun₁
  obtain ⟨_, b₂, hrun₂, h⟩ := run_bind_ok h
  exact ⟨o, b₂, hfresh, hrun₂, h⟩

/-- A part of the collection that is run in the scope of a class, where private names are spelled
with the name of the class. -/
theorem run_classBody_ok {name : String} {line : Nat} {body : Collect Unit} {u : Unit}
    (h : (do
      enter (.named .classBody) name line
      let outer := (← MonadState.get).privateTo
      modify ({ · with privateTo := some name })
      body
      modify ({ · with privateTo := outer })
      leave : Collect Unit).run b = .ok (u, b')) :
    ∃ o b₁, Fresh b (.named .classBody) name line o ∧
      body.run (opened b o (some name)) = .ok ((), b₁) ∧
      leave.run { b₁ with privateTo := b.privateTo } = .ok (u, b') := by
  obtain ⟨o, hfresh, henter⟩ := run_enter (.named .classBody) name line b
  obtain ⟨_, b₁, hrun₁, h⟩ := run_bind_ok h
  rw [henter] at hrun₁
  cases hrun₁
  obtain ⟨_, b₂, hrun₂, h⟩ := run_bind_ok h
  cases hrun₂
  obtain ⟨_, b₃, hrun₃, h⟩ := run_bind_ok h
  cases hrun₃
  obtain ⟨_, b₄, hrun₄, h⟩ := run_bind_ok h
  obtain ⟨_, b₅, hrun₅, h⟩ := run_bind_ok h
  cases hrun₅
  exact ⟨o, b₄, hfresh, hrun₄, h⟩

theorem run_leave {o parent : OpenScope} {rest : List OpenScope}
    (hb : b.stack = o :: parent :: rest) (ho : o.kind ≠ .hint) :
    leave.run b = .ok ((), closed b
      { parent with children := parent.children ++ [.mk o.frame o.children] } rest
      b.privateTo) := by
  simp [leave, hb, ho]
  rfl

theorem run_leave_hint {o parent : OpenScope} {rest : List OpenScope}
    (hb : b.stack = o :: parent :: rest) (ho : o.kind = .hint) :
    leave.run b = .ok ((), closed b parent rest b.privateTo) := by
  simp [leave, hb, ho]
  rfl

end Runs

/-! ## Properties that compose -/

/-- A property of parts of the collection that change nothing or fail, and of parts that are put
together from such. -/
structure Composes (P : (α : Type) → Collect α → Prop) : Prop where
  same {α : Type} {x : Collect α} (h : ∀ b a b', x.run b = .ok (a, b') → b' = b) : P α x
  bind {α β : Type} {x : Collect α} {f : α → Collect β} (hx : P α x) (hf : ∀ a, P β (f a)) :
    P β (x >>= f)

namespace Composes

variable {P : (α : Type) → Collect α → Prop} (hP : Composes P)
include hP

theorem pure {α : Type} (a : α) : P α (Pure.pure a) :=
  hP.same fun b c b' hrun => by
    rw [StateT.run_pure] at hrun
    exact (congrArg Prod.snd (Except.ok.inj hrun)).symm

theorem get : P ScopeBuilder MonadState.get :=
  hP.same fun b c b' hrun => by
    rw [StateT.run_get] at hrun
    exact (congrArg Prod.snd (Except.ok.inj hrun)).symm

theorem fault {α : Type} (fault : ScopeFault) (line : Nat) : P α (Collect.fault fault line) :=
  hP.same fun b a b' hrun => by cases hrun

theorem current : P OpenScope Collect.current :=
  hP.bind hP.get fun b => by
    split <;> exact hP.pure _

theorem occursAs (name : String) (role : SymbolRole) : P Bool (Collect.occursAs name role) :=
  hP.bind hP.current fun _ => hP.bind hP.get fun _ => hP.pure _

theorem notInHint (what : String) (line : Nat) : P Unit (Collect.notInHint what line) :=
  hP.bind hP.current fun o => by
    split
    · exact hP.fault _ _
    · exact hP.pure _

theorem checkYield (line : Nat) : P Unit (Collect.checkYield line) :=
  hP.bind hP.current fun o => by
    split
    · exact hP.fault _ _
    · exact hP.pure _

theorem check {α : Type} {x : Collect α} (name : String) (role : SymbolRole) (fault : ScopeFault)
    (line : Nat) (hx : P α x) : P α (do
      if ← Collect.occursAs name role then Collect.fault fault line
      x) :=
  hP.bind (hP.occursAs name role) fun on => by
    split
    · exact hP.bind (hP.fault _ _) fun _ => hx
    · exact hx

theorem declare {role : SymbolRole} {word name : String} {line : Nat}
    (hdefine : P Unit (Collect.define name role line))
    (hdirect : P Unit (Collect.direct name line)) :
    P Unit (Collect.declare role word name line) :=
  hP.check _ _ _ _ <| hP.check _ _ _ _ <| hP.check _ _ _ _ <| hP.check _ _ _ _ <|
    hP.bind hdefine fun _ => hdirect

theorem forM {ι : Type} {f : ι → Collect PUnit} {is : List ι} (hf : ∀ i ∈ is, P PUnit (f i)) :
    P PUnit (is.forM f) := by
  induction is with
  | nil => exact hP.pure _
  | cons i is ih =>
      rw [List.forall_mem_cons] at hf
      exact hP.bind hf.1 fun _ => ih hf.2

theorem importAlias {bound : Alias → String} {a : Alias}
    (hdefine : a.isStar = false → P Unit (Collect.define (bound a) .imported a.span.line)) :
    P Unit (Collect.importAlias bound a) := by
  unfold Collect.importAlias
  split
  · refine hP.bind hP.current fun o => ?_
    split
    · exact hP.fault _ _
    · exact hP.pure _
  · rename_i hstar
    exact hdefine (Bool.not_eq_true _ ▸ hstar)

theorem parameters {ps : List ParameterName}
    (hdefine : ∀ p ∈ ps, P Unit (Collect.define p.name .parameter p.span.line)) :
    P Unit (Collect.parameters ps) := by
  have hdeclare (roles : List ParameterRole) :
      P Unit ((ps.filter fun p => roles.contains p.role).forM fun p =>
        Collect.define p.name .parameter p.span.line) :=
    hP.forM fun p hp => hdefine p (List.mem_filter.mp hp).1
  exact hP.bind (hdeclare _) fun _ => hP.bind (hdeclare _) fun _ => hP.bind (hdeclare _) fun _ =>
    hP.bind (hdeclare _) fun _ => hdeclare _

theorem optional {x : Collect Unit} (on : Bool) (hx : P Unit x) :
    P Unit (if on then x else Pure.pure ()) := by
  split
  · exact hx
  · exact hP.pure _

end Composes

end Collect

end Assay.Source
