import Assay.Proofs.CollectedScopes

/-! # Names that are bound

Each name that a scope binds is defined by some node of the module, or captured by a pattern: what
the collection binds is always the name of a node that it visits, in the spelling of the class
around the scope that it is bound in. Definitions are recorded as uses, captures are not.
-/

namespace Assay.Check

open Source

/-! ## Binding nodes -/

/-- The name that a pattern captures. -/
def captured? : Node → Option String
  | .pattern (.mk _ _ _ _ binds) => binds
  | _ => none

/-- A node binds a name if it defines or captures it. -/
def Binds (file : String) (k : Node) (name : String) : Prop :=
  (∃ o, occurrenceAt? file k = some o ∧ o.isDefinition ∧ o.name = name) ∨ captured? k = some name

/-- Whether a name that occurs in a role is bound. -/
def bindingRole (role : SymbolRole) : Bool :=
  role = .assigned || role = .parameter || role = .imported

theorem isBound_iff (s : Symbol) : s.isBound ↔ ∃ role ∈ s.roles, bindingRole role := by
  simp only [Symbol.isBound, Symbol.has, bindingRole, Bool.or_eq_true, List.contains_eq_mem,
    decide_eq_true_eq]
  grind

theorem isBound_add {s : Symbol} {role : SymbolRole} (h : (s.add role).isBound) :
    s.isBound ∨ bindingRole role := by
  rw [isBound_iff] at h ⊢
  unfold Symbol.add at h
  grind

namespace Collecting

section Bound

variable (I : String → Prop)

/-- Names that are bound under the private names of a class come from names of some kind. The name
of the iterable of a comprehension belongs to no node. -/
def Sound (owner : Option String) (symbols : List Symbol) : Prop :=
  ∀ s ∈ symbols, s.isBound → s.name = ".0" ∨ ∃ name, I name ∧ mangle owner name = s.name

/-- The bound names of a scope and of those inside come from names of some kind. -/
def SoundWithin (owner : Option String) (s : Scope) : Prop :=
  ∀ p ∈ owned owner s, Sound I p.1 p.2.frame.symbols

/-- The class whose private names are spelled with its name in the innermost of open scopes. -/
def ownerOf : List OpenScope → Option String
  | [] => none
  | o :: rest => ownerWithin (ownerOf rest) o.frame

/-- The bound names of open scopes, and of the closed ones in them, come from names of some kind. -/
def StackSound : List OpenScope → Prop
  | [] => True
  | o :: rest => Sound I (ownerOf (o :: rest)) o.frame.symbols ∧
      (∀ c ∈ o.children, SoundWithin I (ownerOf (o :: rest)) c) ∧
      (o.frame.kind = .classBody → o.kind = .named .classBody) ∧ StackSound rest

/-- The invariant of the collection. -/
structure Holds (b : ScopeBuilder) : Prop where
  nonempty : b.stack ≠ []
  owner : b.privateTo = ownerOf b.stack
  sound : StackSound I b.stack

variable {I} {owner : Option String} {os os' : List OpenScope}

theorem ownerWithin_grows {o o' : OpenScope} (h : Grows o o') (owner : Option String) :
    ownerWithin owner o'.frame = ownerWithin owner o.frame := by
  rw [ownerWithin, ownerWithin, h.kind_eq, h.name_eq]

theorem mangle_zero (owner : Option String) : mangle owner ".0" = ".0" := by
  cases owner <;> rfl

theorem ownerOf_grows (h : List.Forall₂ Grows os os') : ownerOf os' = ownerOf os := by
  induction h with
  | nil => rfl
  | cons ho _ ih => rw [ownerOf, ownerOf, ih, ownerWithin_grows ho]

theorem StackSound.classBody (h : StackSound I os) {o : OpenScope} (ho : o ∈ os) :
    o.frame.kind = .classBody → o.kind = .named .classBody := by
  induction os with
  | nil => cases ho
  | cons p rest ih =>
      rcases List.mem_cons.mp ho with rfl | ho
      · exact h.2.2.1
      · exact ih h.2.2.2 ho

theorem sound_addRole {symbols : List Symbol} {name : String} {role : SymbolRole}
    (h : Sound I owner symbols)
    (hname : bindingRole role → name = ".0" ∨ ∃ n, I n ∧ mangle owner n = name) :
    Sound I owner (addRole name role symbols) := by
  induction symbols with
  | nil =>
      intro s hs hbound
      rw [List.mem_singleton.mp hs, isBound_iff] at hbound
      rw [List.mem_singleton.mp hs]
      obtain ⟨r, hr, hbinding⟩ := hbound
      rw [List.mem_singleton.mp hr] at hbinding
      exact hname hbinding
  | cons t rest ih =>
      rw [Sound, List.forall_mem_cons] at h
      rw [addRole]
      split
      · rename_i heq
        rw [Sound, List.forall_mem_cons]
        refine ⟨fun hbound => ?_, h.2⟩
        rw [add_name]
        rcases isBound_add hbound with hbound | hbinding
        · exact h.1 hbound
        · exact eq_of_beq heq ▸ hname hbinding
      · rw [Sound, List.forall_mem_cons]
        exact ⟨h.1, ih h.2⟩

theorem sound_define {o o' : OpenScope} {written name : String} {role : SymbolRole} {line : Nat}
    (hdefine : o.define written name role line = .ok o') (h : Sound I owner o.frame.symbols)
    (hname : bindingRole role → name = ".0" ∨ ∃ n, I n ∧ mangle owner n = name) :
    Sound I owner o'.frame.symbols := by
  have hadded := sound_addRole h hname
  unfold OpenScope.define at hdefine
  dsimp only at hdefine
  split at hdefine
  · cases hdefine
  · split at hdefine
    · split at hdefine
      · cases hdefine
      · cases hdefine
        exact sound_addRole hadded (by simp [bindingRole])
    · cases hdefine
      exact hadded

theorem grows_of_waits (h : List.Forall₂ Waits os os') : List.Forall₂ Grows os os' :=
  h.imp fun _ _ hwaits => hwaits.1

/-- What a scope may become without a change of the scopes around it. -/
theorem StackSound.replace {o o' : OpenScope} (h : StackSound I (o :: os)) (hwaits : Waits o o')
    (hsymbols : Sound I (ownerOf (o :: os)) o'.frame.symbols) : StackSound I (o' :: os) := by
  obtain ⟨-, hchildren, hclass, hrest⟩ := h
  rw [StackSound, ownerOf, ownerWithin_grows hwaits.1, ← ownerOf, hwaits.2, hwaits.1.kind_eq,
    hwaits.1.openKind_eq]
  exact ⟨hsymbols, hchildren, hclass, hrest⟩

/-- What the scopes around a scope may become without a change of it. -/
theorem StackSound.replaceRest {o : OpenScope} (h : StackSound I (o :: os))
    (hgrows : List.Forall₂ Grows os os') (hrest : StackSound I os') : StackSound I (o :: os') := by
  obtain ⟨hsound, hchildren, hclass, -⟩ := h
  rw [StackSound, ownerOf, ownerOf_grows hgrows, ← ownerOf]
  exact ⟨hsound, hchildren, hclass, hrest⟩

theorem stackSound_modifyAt {written name : String} {role : SymbolRole} {line depth : Nat}
    (hdefine : Collect.modifyAt (·.define written name role line) depth os = .ok os')
    (h : StackSound I os)
    (hname : bindingRole role →
      name = ".0" ∨ ∃ n, I n ∧ mangle (ownerOf (os.drop depth)) n = name) :
    StackSound I os' := by
  induction os generalizing depth os' with
  | nil =>
      rw [Collect.modifyAt] at hdefine
      cases hdefine
      exact h
  | cons o rest ih =>
      cases depth with
      | zero =>
          rw [Collect.modifyAt] at hdefine
          obtain ⟨o', ho, hdefine⟩ := Attempt.of_bind_eq_ok hdefine
          cases hdefine
          exact h.replace (waits_define ho).1 (sound_define ho h.1 hname)
      | succ depth =>
          rw [Collect.modifyAt] at hdefine
          obtain ⟨rest', hrest, hdefine⟩ := Attempt.of_bind_eq_ok hdefine
          cases hdefine
          have hwaits := waits_modifyAt (fun _ _ h => (waits_define h).1) hrest
          exact h.replaceRest (grows_of_waits hwaits) (ih hrest h.2.2.2 hname)

theorem stackSound_declareAtTop (name : String) (h : StackSound I os) :
    StackSound I (Collect.declareAtTop name os) := by
  induction os with
  | nil => exact h
  | cons o rest ih =>
      cases rest with
      | nil =>
          exact h.replace (waits_symbols (names_subset_addRole _ _ _))
            (sound_addRole h.1 (by simp [bindingRole]))
      | cons p rest =>
          exact h.replaceRest (grows_of_waits (waits_declareAtTop _ _)) (ih h.2.2.2)

/-! ### Parts of the collection -/

variable {α β : Type} {b b' : ScopeBuilder} {x : Collect α} {f : α → Collect β}

variable (I) in
/-- A part of the collection keeps the invariant. The open scopes only grow. -/
def Keeps (x : Collect α) : Prop :=
  ∀ b a b', x.run b = .ok (a, b') → Holds I b → Holds I b' ∧ List.Forall₂ Grows b.stack b'.stack

theorem Holds.grow (h : Holds I b) {stack : List OpenScope}
    (hgrows : List.Forall₂ Grows b.stack stack) (hsound : StackSound I stack) :
    Holds I { b with stack } ∧ List.Forall₂ Grows b.stack stack := by
  refine ⟨⟨?_, h.owner.trans (ownerOf_grows hgrows).symm, hsound⟩, hgrows⟩
  rintro rfl
  exact h.nonempty (List.forall₂_nil_right_iff.mp hgrows)

theorem Keeps.bind (hx : Keeps I x) (hf : ∀ a, Keeps I (f a)) : Keeps I (x >>= f) := by
  intro b c b'' hrun hb
  obtain ⟨a, b', hfirst, hsecond⟩ := Collect.run_bind_ok hrun
  obtain ⟨hb', hgrows⟩ := hx b a b' hfirst hb
  obtain ⟨hb'', hgrows'⟩ := hf a b' c b'' hsecond hb'
  exact ⟨hb'', forall₂_trans hgrows hgrows'⟩

theorem keeps_composes : Collect.Composes fun _ x => Keeps I x where
  same h b a b' hrun hb := by
    rw [h b a b' hrun]
    exact ⟨hb, List.forall₂_refl _⟩
  bind hx hf := Keeps.bind hx hf

theorem keeps_modifyCurrent {f : OpenScope → OpenScope}
    (hf : ∀ o, Waits o (f o) ∧ (f o).frame.symbols = o.frame.symbols) :
    Keeps I (Collect.modifyCurrent f) := by
  intro b a b' hrun hb
  obtain ⟨o, rest, ho⟩ := List.exists_cons_of_ne_nil hb.nonempty
  rw [Collect.run_modifyCurrent ho] at hrun
  cases hrun
  have hsound := hb.sound
  rw [ho] at hsound
  refine hb.grow ?_ (hsound.replace (hf o).1 ((hf o).2 ▸ hsound.1))
  rw [ho]
  exact .cons (hf o).1.1 (List.forall₂_refl rest)

theorem keeps_iterable (f : Nat → Nat) : Keeps I (Collect.iterable f) :=
  keeps_modifyCurrent fun _ => ⟨⟨⟨rfl, rfl, rfl, rfl, rfl, List.Subset.refl _⟩, rfl⟩, rfl⟩

theorem keeps_iterating (on : Bool) : Keeps I (Collect.iterating on) :=
  keeps_modifyCurrent fun _ => ⟨⟨⟨rfl, rfl, rfl, rfl, rfl, List.Subset.refl _⟩, rfl⟩, rfl⟩

theorem keeps_direct (name : String) (line : Nat) : Keeps I (Collect.direct name line) :=
  keeps_composes.get.bind fun _ => keeps_modifyCurrent fun _ =>
    ⟨⟨⟨rfl, rfl, rfl, rfl, rfl, List.Subset.refl _⟩, rfl⟩, rfl⟩

/-- A name that gets a role in a scope around may be bound there. -/
theorem holds_defineAt {depth : Nat} {name : String} {role : SymbolRole} {line : Nat} {u : Unit}
    (hrun : (Collect.defineAt depth name role line).run b = .ok (u, b')) (hb : Holds I b)
    (hname : bindingRole role → name = ".0" ∨ I name)
    (howner : ownerOf (b.stack.drop depth) = ownerOf b.stack) :
    Holds I b' ∧ List.Forall₂ Grows b.stack b'.stack := by
  obtain ⟨stack, hat, rfl⟩ := Collect.run_defineAt_ok hrun
  have hgrows := grows_of_waits (waits_modifyAt (fun _ _ h => (waits_define h).1) hat)
  have hsound : StackSound I stack := stackSound_modifyAt hat hb.sound fun hrole => by
    rw [howner, ← hb.owner]
    rcases hname hrole with rfl | hI
    · exact .inl (mangle_zero _)
    · exact .inr ⟨name, hI, rfl⟩
  refine hb.grow ?_ ?_
  · split
    · exact forall₂_trans hgrows (grows_of_waits (waits_declareAtTop _ _))
    · exact hgrows
  · split
    · exact stackSound_declareAtTop _ hsound
    · exact hsound

theorem keeps_define (name : String) (role : SymbolRole) (line : Nat)
    (hname : bindingRole role → name = ".0" ∨ I name) :
    Keeps I (Collect.define name role line) :=
  fun _ _ _ hrun hb => holds_defineAt hrun hb hname rfl

theorem ownerOf_drop_succ {o : OpenScope} {rest : List OpenScope} (h : StackSound I os)
    {depth : Nat} (hdrop : os.drop depth = o :: rest) (hkind : o.kind ≠ .named .classBody) :
    os.drop (depth + 1) = rest ∧ ownerOf rest = ownerOf (o :: rest) := by
  constructor
  · rw [← List.drop_drop, hdrop, List.drop_one, List.tail_cons]
  · have ho : o ∈ os := List.mem_of_mem_drop (hdrop ▸ List.mem_cons_self)
    rw [ownerOf, ownerWithin, if_neg fun h' => hkind (h.classBody ho h')]

/-- The target of a named expression inside of comprehensions is bound where the same private names
are spelled in the same way. -/
theorem holds_extendWalrus {name : String} {line : Nat} (hname : I name) (os : List OpenScope) :
    ∀ {depth u b b'}, (Collect.extendWalrus name line depth os).run b = .ok (u, b') → Holds I b →
      b.stack.drop depth = os → ownerOf os = ownerOf b.stack →
      Holds I b' ∧ List.Forall₂ Grows b.stack b'.stack := by
  induction os with
  | nil => exact fun hrun hb _ _ => keeps_composes.pure () _ _ _ hrun hb
  | cons o rest ih =>
      intro depth u b b' hrun hb hdrop howner
      obtain ⟨_, b₁, hget, hrun⟩ := Collect.run_bind_ok hrun
      cases hget
      have hskip (hkind : o.kind ≠ .named .classBody)
          (hrun : (Collect.extendWalrus name line (depth + 1) rest).run b = .ok (u, b')) :
          Holds I b' ∧ List.Forall₂ Grows b.stack b'.stack := by
        obtain ⟨hdrop', howner'⟩ := ownerOf_drop_succ hb.sound hdrop hkind
        exact ih hrun hb hdrop' (howner'.trans howner)
      have hoverride {role role' : SymbolRole} (hrole : bindingRole role' = false)
          (hrun : (do
            Collect.define name role' line
            Collect.direct name line
            Collect.defineAt depth name role line).run b = .ok (u, b')) :
          Holds I b' ∧ List.Forall₂ Grows b.stack b'.stack := by
        obtain ⟨_, b₁, hrun₁, hrun⟩ := Collect.run_bind_ok hrun
        obtain ⟨_, b₂, hrun₂, hrun⟩ := Collect.run_bind_ok hrun
        obtain ⟨hb₁, hgrows₁⟩ := keeps_define name role' line (by simp [hrole]) _ _ _ hrun₁ hb
        obtain ⟨hb₂, hgrows₂⟩ := keeps_direct name line _ _ _ hrun₂ hb₁
        have hgrows := forall₂_trans hgrows₁ hgrows₂
        -- what was done in the innermost scope does not change how names are spelled further out
        obtain ⟨hb', hgrows'⟩ := holds_defineAt hrun hb₂ (fun _ => .inr hname) (by
          rw [ownerOf_grows (List.forall₂_drop depth hgrows), hdrop, howner, ownerOf_grows hgrows])
        exact ⟨hb', forall₂_trans hgrows hgrows'⟩
      dsimp only at hrun
      split at hrun
      · rename_i hkind
        split at hrun
        · cases hrun
        · exact hskip (by simp [hkind]) hrun
      · rename_i hkind
        exact hskip (by simp [hkind]) hrun
      · refine hoverride ?_ hrun
        split <;> rfl
      · exact hoverride rfl hrun
      · cases hrun

theorem keeps_extendWalrus {name : String} (line : Nat) (hname : I name) :
    Keeps I (do Collect.extendWalrus name line 0 (← get).stack) := by
  intro b u b' hrun hb
  obtain ⟨_, b₁, hget, hrun⟩ := Collect.run_bind_ok hrun
  cases hget
  exact holds_extendWalrus hname b.stack hrun hb rfl rfl

theorem keeps_name (id : String) (access : Access) (line : Nat) (hname : access ≠ .load → I id) :
    Keeps I (Collect.name id access line) := by
  refine (keeps_define id _ line fun hrole => .inr (hname ?_)).bind fun _ => ?_
  · rintro rfl
    simp [bindingRole] at hrole
  · split
    · exact keeps_composes.current.bind fun o =>
        keeps_composes.optional _ (keeps_define _ _ _ (by simp [bindingRole]))
    · exact keeps_composes.pure _

/-! ### Scopes -/

theorem holds_opened {kind : OpenKind} {name : String} {line : Nat} {o : OpenScope}
    (hb : Holds I b) (hfresh : Fresh b kind name line o)
    (howner : owner = ownerWithin b.privateTo o.frame) : Holds I (opened b o owner) := by
  refine ⟨List.cons_ne_nil _ _, howner.trans (by rw [hb.owner]; rfl), ?_, ?_, fun hclass => ?_,
    hb.sound⟩
  · rw [hfresh.symbols_eq]
    exact List.forall_mem_nil _
  · rw [hfresh.children_eq]
    exact List.forall_mem_nil _
  · rw [hfresh.kind_eq, hfresh.classBody_iff.mp hclass]

/-- Closing a scope keeps the invariant, also behind a class whose name was spelled in private
names. -/
theorem holds_leave {b₁ b₂ : ScopeBuilder} {o : OpenScope} {u : Unit}
    (hrun : Collect.leave.run b₁ = .ok (u, b₂)) (hsound : StackSound I b₁.stack)
    (howner : b₁.privateTo = ownerOf b.stack) (hstack : b.stack ≠ [])
    (hgrows : List.Forall₂ Grows (o :: b.stack) b₁.stack) :
    Holds I b₂ ∧ List.Forall₂ Grows b.stack b₂.stack := by
  obtain ⟨p, before, hp⟩ := List.exists_cons_of_ne_nil hstack
  obtain ⟨o', stack, -, haround, hb₁⟩ := List.forall₂_cons_left_iff.mp hgrows
  rw [hp] at haround
  obtain ⟨parent, rest, hparent, hrest, rfl⟩ := List.forall₂_cons_left_iff.mp haround
  rw [hb₁] at hsound
  obtain ⟨hsymbols, hchildren, -, hbelow⟩ := hsound
  have hclosed (children : List Scope) :
      List.Forall₂ Grows b.stack ({ parent with children } :: rest) := by
    rw [hp]
    exact .cons (hparent.withChildren children) hrest
  by_cases hhint : o'.kind = .hint
  · rw [Collect.run_leave_hint hb₁ hhint] at hrun
    cases hrun
    have hgrows' := hclosed parent.children
    exact ⟨⟨List.cons_ne_nil _ _, howner.trans (ownerOf_grows hgrows').symm, hbelow⟩, hgrows'⟩
  · rw [Collect.run_leave hb₁ hhint] at hrun
    cases hrun
    refine ⟨⟨List.cons_ne_nil _ _, howner.trans (ownerOf_grows (hclosed _)).symm, hbelow.1, ?_,
      hbelow.2.2.1, hbelow.2.2.2⟩, hclosed _⟩
    rw [List.forall_mem_append]
    refine ⟨hbelow.2.1, fun c hc q hq => ?_⟩
    rw [List.mem_singleton.mp hc, owned] at hq
    rcases List.mem_cons.mp hq with rfl | hq
    · exact hsymbols
    · obtain ⟨child, hchild, hq⟩ := exists_of_mem_ownedAll hq
      exact hchildren child hchild q hq

variable {body : Collect Unit}

theorem keeps_scope (kind : OpenKind) (name : String) (line : Nat)
    (hclass : kind ≠ .named .classBody) (hbody : Keeps I body) : Keeps I (do
      Collect.enter kind name line
      body
      Collect.leave) := by
  intro b u b' hrun hb
  obtain ⟨o, b₁, hfresh, hinside, hleave⟩ := Collect.run_scope_ok hrun
  -- only a class changes the spelling of private names
  have hplain : ownerWithin b.privateTo o.frame = b.privateTo := by
    rw [ownerWithin, if_neg fun h => hclass (hfresh.classBody_iff.mp h)]
  obtain ⟨hb₁, hgrows⟩ := hbody _ _ _ hinside (holds_opened hb hfresh hplain.symm)
  refine holds_leave hleave hb₁.sound ?_ hb.nonempty hgrows
  rw [hb₁.owner, ownerOf_grows hgrows, opened, ownerOf, ← hb.owner, hplain]

theorem keeps_classBody (name : String) (line : Nat) (hbody : Keeps I body) : Keeps I (do
    Collect.enter (.named .classBody) name line
    let outer := (← get).privateTo
    modify ({ · with privateTo := some name })
    body
    modify ({ · with privateTo := outer })
    Collect.leave) := by
  intro b u b' hrun hb
  obtain ⟨o, b₁, hfresh, hinside, hleave⟩ := Collect.run_classBody_ok hrun
  have hspelled : some name = ownerWithin b.privateTo o.frame := by
    rw [ownerWithin, if_pos (hfresh.classBody_iff.mpr rfl), hfresh.name_eq]
  obtain ⟨hb₁, hgrows⟩ := hbody _ _ _ hinside (holds_opened hb hfresh hspelled)
  exact holds_leave hleave hb₁.sound hb.owner hb.nonempty hgrows

theorem keeps_hints {es : List Expr} {line : Nat} (hes : Keeps I (Collect.exprs es)) :
    Keeps I (Collect.hints es line) :=
  keeps_composes.get.bind fun b => by
    split
    · exact hes
    · exact keeps_scope _ _ _ (by simp) hes

/-! ### The trees of a module -/

variable (file : String)

variable (I) in
/-- The names that are bound at a node and below it are of some kind. -/
def Covered (n : Node) : Prop := n.Everywhere fun k => ∀ name, Binds file k name → I name

/-- A name that a node defines is of this kind. -/
theorem Covered.defined {n : Node} (h : Covered I file n) {o : Occurrence}
    (ho : occurrenceAt? file n = some o) (hdefinition : o.isDefinition) : I o.name :=
  h.here o.name (.inl ⟨o, ho, hdefinition, rfl⟩)

theorem Covered.accessed {span : Span} {id : String} {access : Access}
    (h : Covered I file (.expr (.name span id access))) (haccess : access ≠ .load) : I id :=
  h.defined file rfl (decide_eq_true haccess)

mutual

theorem keeps_expr : (e : Expr) → Covered I file (.expr e) → Keeps I (Collect.expr e)
  | .name span id access, h => by
      rw [Collect.expr]
      exact keeps_name _ _ _ (h.accessed file)
  | .literal .., _ => by
      rw [Collect.expr]
      exact keeps_composes.pure _
  | .member _ object _ _, h => by
      rw [Collect.expr]
      exact keeps_expr object (h.below (by simp [Node.children]))
  | .subscript _ object index _, h => by
      rw [Collect.expr]
      exact (keeps_expr object (h.below (by simp [Node.children]))).bind
        fun _ => keeps_expr index (h.below (by simp [Node.children]))
  | .starred _ value _, h => by
      rw [Collect.expr]
      exact keeps_expr value (h.below (by simp [Node.children]))
  | .sequence _ _ items _, h => by
      rw [Collect.expr]
      exact keeps_exprs items fun e he => h.below (by simp [Node.children, he])
  | .operation span operator operands, h => by
      have hoperands := keeps_exprs operands fun e he => h.below (by simp [Node.children, he])
      cases operator <;> rw [Collect.expr]
      case yield | yieldFrom =>
        exact (keeps_composes.notInHint _ _).bind fun _ =>
          hoperands.bind fun _ => keeps_composes.checkYield _
      case await => exact (keeps_composes.notInHint _ _).bind fun _ => hoperands
      all_goals first | exact hoperands | simp
  | .walrus span target value, h => by
      have htarget := keeps_expr target (h.below (by simp [Node.children]))
      have hvalue := keeps_expr value (h.below (by simp [Node.children]))
      have hsides := hvalue.bind fun _ => htarget
      rw [Collect.expr]
      refine (keeps_composes.notInHint _ _).bind fun _ => keeps_composes.current.bind fun o => ?_
      dsimp only
      suffices htail : Keeps I _ by
        split
        · exact (keeps_composes.fault _ _).bind fun _ => htail
        · exact htail
      split
      · rename_i s id _
        have hname : Covered I file (.expr (.name s id .store)) := h.below (by simp [Node.children])
        have hextend := (keeps_extendWalrus s.line (hname.accessed file (by simp))).bind
          fun _ => hsides
        simp only [bind_assoc] at hextend
        exact hextend
      · exact hsides
  | .lambda span ps defaults keywordDefaults body, h => by
      have hdefaults := keeps_exprs defaults fun e he => h.below (by simp [Node.children, he])
      have hkeywords := keeps_exprs keywordDefaults
        fun e he => h.below (by simp [Node.children, he])
      have hparameters : Keeps I (Collect.parameters ps) := keeps_composes.parameters fun p hp =>
        keeps_define _ _ _ fun _ => .inr <|
          Covered.defined file (h.below (c := .parameter { toParameterName := p })
            (by simp [Node.children, hp])) rfl rfl
      have hscope : Keeps I _ := keeps_scope (.named .function) "lambda" span.line (by simp)
        (hparameters.bind fun _ => keeps_expr body (h.below (by simp [Node.children])))
      rw [Collect.expr]
      simp only [bind_assoc] at hscope
      exact hdefaults.bind fun _ => hkeywords.bind fun _ => hscope
  | .comprehension span kind results isAsync target first conditions further, h => by
      have hclause : Covered I file (.clause (.mk isAsync target first conditions)) :=
        h.below (by simp [Node.children])
      have hfirst := keeps_expr first (hclause.below (by simp [Node.children]))
      have htarget := keeps_expr target (hclause.below (by simp [Node.children]))
      have hconditions := keeps_exprs conditions
        fun e he => hclause.below (by simp [Node.children, he])
      have hfurther := keeps_clauses further fun c hc => h.below (by simp [Node.children, hc])
      have hresults := keeps_exprsBackward results fun e he => h.below (by simp [Node.children, he])
      have hscope : Keeps I _ :=
        keeps_scope (.comprehension kind) (Collect.scopeName kind) span.line (by simp) <|
        (keeps_define ".0" .parameter span.line fun _ => .inl rfl).bind fun _ =>
        (keeps_iterating true).bind fun _ => htarget.bind fun _ => (keeps_iterating false).bind
        fun _ => hconditions.bind fun _ => hfurther.bind fun _ => hresults
      rw [Collect.expr]
      simp only [bind_assoc] at hscope
      exact (keeps_iterable _).bind fun _ => hfirst.bind fun _ => (keeps_iterable _).bind
        fun _ => hscope

theorem keeps_exprs : (es : List Expr) → (∀ e ∈ es, Covered I file (.expr e)) →
    Keeps I (Collect.exprs es)
  | [], _ => by
      rw [Collect.exprs]
      exact keeps_composes.pure _
  | e :: es, h => by
      rw [List.forall_mem_cons] at h
      rw [Collect.exprs]
      exact (keeps_expr e h.1).bind fun _ => keeps_exprs es h.2

theorem keeps_exprsBackward : (es : List Expr) → (∀ e ∈ es, Covered I file (.expr e)) →
    Keeps I (Collect.exprsBackward es)
  | [], _ => by
      rw [Collect.exprsBackward]
      exact keeps_composes.pure _
  | e :: es, h => by
      rw [List.forall_mem_cons] at h
      rw [Collect.exprsBackward]
      exact (keeps_exprsBackward es h.2).bind fun _ => keeps_expr e h.1

theorem keeps_clauses : (cs : List Clause) → (∀ c ∈ cs, Covered I file (.clause c)) →
    Keeps I (Collect.clauses cs)
  | [], _ => by
      rw [Collect.clauses]
      exact keeps_composes.pure _
  | .mk _ target source conditions :: rest, h => by
      rw [List.forall_mem_cons] at h
      have htarget := keeps_expr target (h.1.below (by simp [Node.children]))
      have hsource := keeps_expr source (h.1.below (by simp [Node.children]))
      have hconditions := keeps_exprs conditions fun e he => h.1.below (by simp [Node.children, he])
      rw [Collect.clauses]
      exact (keeps_iterating true).bind fun _ => htarget.bind fun _ => (keeps_iterating false).bind
        fun _ => (keeps_iterable _).bind fun _ => hsource.bind fun _ => (keeps_iterable _).bind
        fun _ => hconditions.bind fun _ => keeps_clauses rest h.2

end

mutual

theorem keeps_pattern : (p : Pattern) → Covered I file (.pattern p) → Keeps I (Collect.pattern p)
  | .mk span _ expressions parts binds, h => by
      have hexpressions := keeps_exprs file expressions
        fun e he => h.below (by simp [Node.children, he])
      have hparts := keeps_patterns parts fun p hp => h.below (by simp [Node.children, hp])
      cases binds <;> rw [Collect.pattern]
      case none => exact hexpressions.bind fun _ => hparts.bind fun _ => keeps_composes.pure _
      case some name =>
        exact hexpressions.bind fun _ => hparts.bind fun _ =>
          keeps_define _ _ _ fun _ => .inr (h.here name (.inr rfl))

theorem keeps_patterns : (ps : List Pattern) → (∀ p ∈ ps, Covered I file (.pattern p)) →
    Keeps I (Collect.patterns ps)
  | [], _ => by
      rw [Collect.patterns]
      exact keeps_composes.pure _
  | p :: ps, h => by
      rw [List.forall_mem_cons] at h
      rw [Collect.patterns]
      exact (keeps_pattern p h.1).bind fun _ => keeps_patterns ps h.2

end

/-- Each hint of a signature is that of a parameter. -/
theorem mem_hints {s : Signature} {hint : Expr} (h : hint ∈ s.hints) :
    ∃ p ∈ s.parameters, p.hint = some hint := by
  simp only [Signature.hints, Collect.hintsOf, List.mem_append, List.mem_filterMap,
    List.mem_filter] at h
  grind

mutual

theorem keeps_stmt : (s : Stmt) → Covered I file (.stmt s) → Keeps I (Collect.stmt s)
  | .function span isAsync name signature returns decorators body, h => by
      have hdefaults := keeps_exprs file signature.defaults
        fun e he => h.below (by simp [Node.children, he])
      have hkeywords := keeps_exprs file signature.keywordDefaults
        fun e he => h.below (by simp [Node.children, he])
      have hparameter : ∀ p ∈ signature.parameters, Covered I file (.parameter p) :=
        fun p hp => h.below (by simp [Node.children, hp])
      have hhints : Keeps I (Collect.hints signature.hints span.line) :=
        keeps_hints <| keeps_exprs file signature.hints fun e he => by
          obtain ⟨p, hp, heq⟩ := mem_hints he
          exact (hparameter p hp).below (by simp [Node.children, heq])
      have hdecorators := keeps_exprs file decorators
        fun e he => h.below (by simp [Node.children, he])
      have hparameters : Keeps I
          (Collect.parameters (signature.parameters.map (·.toParameterName))) :=
        keeps_composes.parameters fun p hp => keeps_define _ _ _ fun _ => by
          obtain ⟨q, hq, rfl⟩ := List.mem_map.mp hp
          exact .inr ((hparameter q hq).defined file rfl rfl)
      have hscope : Keeps I _ := keeps_scope (.named .function) name span.line (by simp)
        (hparameters.bind fun _ =>
          keeps_stmts body fun s hs => h.below (by simp [Node.children, hs]))
      have hname : Keeps I (Collect.define name .assigned span.line) :=
        keeps_define _ _ _ fun _ => .inr (h.defined file rfl rfl)
      simp only [bind_assoc] at hscope
      cases returns <;> rw [Collect.stmt]
      case none =>
        exact hname.bind fun _ => hdefaults.bind fun _ => hkeywords.bind fun _ => hhints.bind
          fun _ => hdecorators.bind fun _ => hscope
      case some hint =>
        have hhint : Keeps I (Collect.hints [hint] hint.span.line) :=
          keeps_hints <| keeps_exprs file [hint] fun e he => h.below (by
            simp [Node.children, List.mem_singleton.mp he])
        exact hname.bind fun _ => hdefaults.bind fun _ => hkeywords.bind fun _ => hhints.bind
          fun _ => hhint.bind fun _ => hdecorators.bind fun _ => hscope
  | .classDef span name bases keywords decorators body, h => by
      have hbases := keeps_exprs file bases fun e he => h.below (by simp [Node.children, he])
      have hkeywords := keeps_exprs file keywords fun e he => h.below (by simp [Node.children, he])
      have hdecorators := keeps_exprs file decorators
        fun e he => h.below (by simp [Node.children, he])
      have hbody := keeps_stmts body fun s hs => h.below (by simp [Node.children, hs])
      have hname : Keeps I (Collect.define name .assigned span.line) :=
        keeps_define _ _ _ fun _ => .inr (h.defined file rfl rfl)
      rw [Collect.stmt]
      exact hname.bind fun _ => hbases.bind fun _ => hkeywords.bind fun _ => hdecorators.bind
        fun _ => keeps_classBody _ _ hbody
  | .assign _ targets value, h => by
      have htargets := keeps_exprs file targets fun e he => h.below (by simp [Node.children, he])
      have hvalue := keeps_expr file value (h.below (by simp [Node.children]))
      rw [Collect.stmt]
      exact htargets.bind fun _ => hvalue
  | .annotate span target hint value bare, h => by
      have htarget : Covered I file (.expr target) := h.below (by simp [Node.children])
      have hhint : Keeps I (Collect.hints [hint] hint.span.line) :=
        keeps_hints <| keeps_exprs file [hint] fun e he => h.below (by
          simp [Node.children, List.mem_singleton.mp he])
      have hvalue := keeps_exprs file value.toList fun e he => h.below (by
        rw [Option.mem_toList] at he
        simp [Node.children, he])
      have hrest := hhint.bind fun _ => hvalue
      by_cases hname : ∃ s id, target = .name s id .store
      · obtain ⟨s, id, rfl⟩ := hname
        have hid := htarget.accessed file (by simp)
        have hbound := (keeps_define id .assigned s.line fun _ => .inr hid).bind fun _ => hrest
        rw [Collect.stmt]
        refine keeps_composes.get.bind fun b => ?_
        dsimp only
        suffices htail : Keeps I _ by
          split
          · exact keeps_composes.check _ _ _ _ <| keeps_composes.check _ _ _ _ htail
          · exact htail
        split
        · exact (keeps_define _ _ _ fun _ => .inr hid).bind fun _ => hbound
        · split
          · exact hbound
          · exact hrest
      · rw [Collect.stmt]
        · exact (keeps_expr file target htarget).bind fun _ => hrest
        · exact fun s id h => hname ⟨s, id, h⟩
  | .expression _ value, h => by
      rw [Collect.stmt]
      exact keeps_expr file value (h.below (by simp [Node.children]))
  | .evaluate _ _ es, h => by
      rw [Collect.stmt]
      exact keeps_exprs file es fun e he => h.below (by simp [Node.children, he])
  | .flow _ _ header body otherwise, h => by
      have hheader := keeps_exprs file header fun e he => h.below (by simp [Node.children, he])
      have hbody := keeps_stmts body fun s hs => h.below (by simp [Node.children, hs])
      have hotherwise := keeps_stmts otherwise fun s hs => h.below (by simp [Node.children, hs])
      rw [Collect.stmt]
      exact hheader.bind fun _ => hbody.bind fun _ => hotherwise
  | .guarded _ _ body handlers otherwise final, h => by
      have hbody := keeps_stmts body fun s hs => h.below (by simp [Node.children, hs])
      have hhandlers := keeps_handlersOf handlers fun k hk => h.below (by simp [Node.children, hk])
      have hotherwise := keeps_stmts otherwise fun s hs => h.below (by simp [Node.children, hs])
      have hfinal := keeps_stmts final fun s hs => h.below (by simp [Node.children, hs])
      rw [Collect.stmt]
      exact hbody.bind fun _ => hotherwise.bind fun _ => hhandlers.bind fun _ => hfinal
  | .branch _ subject cases, h => by
      have hsubject := keeps_expr file subject (h.below (by simp [Node.children]))
      have hcases := keeps_casesOf cases fun k hk => h.below (by simp [Node.children, hk])
      rw [Collect.stmt]
      exact hsubject.bind fun _ => hcases
  | .importModules _ names, h => by
      rw [Collect.stmt]
      refine keeps_composes.forM fun a ha => keeps_composes.importAlias fun _ =>
        keeps_define _ _ _ fun _ => .inr ?_
      exact Covered.defined file (h.below (c := .imported a) (by simp [Node.children, ha])) rfl rfl
  | .importFrom _ _ _ names, h => by
      rw [Collect.stmt]
      refine keeps_composes.forM fun a ha => keeps_composes.importAlias fun hstar =>
        keeps_define _ _ _ fun _ => .inr ?_
      have hmember : Covered I file (.member a) := h.below (by simp [Node.children, ha])
      exact hmember.defined file (by rw [occurrenceAt?, hstar]; rfl) rfl
  | .globals span names, _ => by
      rw [Collect.stmt]
      exact keeps_composes.forM fun _ _ =>
        keeps_composes.declare (keeps_define _ _ _ (by simp [bindingRole])) (keeps_direct _ _)
  | .nonlocals span names, _ => by
      rw [Collect.stmt]
      exact keeps_composes.forM fun _ _ =>
        keeps_composes.declare (keeps_define _ _ _ (by simp [bindingRole])) (keeps_direct _ _)

theorem keeps_stmts : (ss : List Stmt) → (∀ s ∈ ss, Covered I file (.stmt s)) →
    Keeps I (Collect.stmts ss)
  | [], _ => by
      rw [Collect.stmts]
      exact keeps_composes.pure _
  | s :: rest, h => by
      rw [List.forall_mem_cons] at h
      rw [Collect.stmts]
      exact (keeps_stmt s h.1).bind fun _ => keeps_stmts rest h.2

theorem keeps_handlersOf : (hs : List Handler) → (∀ k ∈ hs, Covered I file (.handler k)) →
    Keeps I (Collect.handlersOf hs)
  | [], _ => by
      rw [Collect.handlersOf]
      exact keeps_composes.pure _
  | .mk span type? bound body :: rest, h => by
      rw [List.forall_mem_cons] at h
      have htype := keeps_exprs file type?.toList fun e he => h.1.below (by
        rw [Option.mem_toList] at he
        simp [Node.children, he])
      have hbody := keeps_stmts body fun s hs => h.1.below (by simp [Node.children, hs])
      have hrest := hbody.bind fun _ => keeps_handlersOf rest h.2
      cases bound <;> rw [Collect.handlersOf]
      case none => exact htype.bind fun _ => hrest
      case some name =>
        exact htype.bind fun _ =>
          (keeps_define _ _ _ fun _ => .inr (h.1.defined file rfl rfl)).bind fun _ => hrest

theorem keeps_casesOf : (cs : List Case) → (∀ k ∈ cs, Covered I file (.arm k)) →
    Keeps I (Collect.casesOf cs)
  | [], _ => by
      rw [Collect.casesOf]
      exact keeps_composes.pure _
  | .mk p guard? body :: rest, h => by
      rw [List.forall_mem_cons] at h
      have hpattern := keeps_pattern file p (h.1.below (by simp [Node.children]))
      have hguard := keeps_exprs file guard?.toList fun e he => h.1.below (by
        rw [Option.mem_toList] at he
        simp [Node.children, he])
      have hbody := keeps_stmts body fun s hs => h.1.below (by simp [Node.children, hs])
      rw [Collect.casesOf]
      exact hpattern.bind fun _ => hguard.bind fun _ => hbody.bind fun _ => keeps_casesOf rest h.2

end

/-! ### Resolved scopes -/

theorem sound_settles {frame frame' : ScopeFrame} (h : Settles frame frame')
    (hsound : Sound I owner frame.symbols) : Sound I owner frame'.symbols := by
  intro s hs hbound
  obtain ⟨free, hsymbols⟩ := h.symbols
  have hmem : outlineOf s ∈ frame'.symbols.map outlineOf := List.mem_map_of_mem hs
  rw [isBound_iff] at hbound
  rw [hsymbols, List.mem_append, List.mem_map, List.mem_map] at hmem
  rcases hmem with ⟨t, ht, heq⟩ | ⟨name, -, heq⟩
  · obtain ⟨hname, hroles⟩ := Prod.mk.inj heq
    rw [← hname]
    exact hsound t ht ((isBound_iff t).mpr (hroles ▸ hbound))
  · obtain ⟨-, hroles⟩ := Prod.mk.inj heq
    rw [← hroles] at hbound
    simp at hbound

mutual

theorem soundWithin_resolved : (s : Scope) → ∀ {owner s'}, Resolved s s' →
    SoundWithin I owner s → SoundWithin I owner s'
  | .mk frame children, owner, _, hres, h => by
      obtain ⟨hsettles, hchildren⟩ := hres
      rw [SoundWithin, owned, List.forall_mem_cons] at h ⊢
      rw [hsettles.ownerWithin_eq]
      exact ⟨sound_settles hsettles h.1, soundAll_resolved children hchildren h.2⟩

theorem soundAll_resolved : (scopes : List Scope) → ∀ {owner scopes'},
    List.Forall₂ Resolved scopes scopes' →
    (∀ p ∈ ownedAll owner scopes, Sound I p.1 p.2.frame.symbols) →
    ∀ p ∈ ownedAll owner scopes', Sound I p.1 p.2.frame.symbols
  | [], _, _, hres, h => by
      cases hres
      exact h
  | s :: rest, _, _, hres, h => by
      obtain ⟨s', rest', hs, hrest, rfl⟩ := List.forall₂_cons_left_iff.mp hres
      rw [ownedAll, List.forall_mem_append] at h ⊢
      exact ⟨soundWithin_resolved s hs h.1, soundAll_resolved rest hrest h.2⟩

end

/-- The scopes of a module only bind names that nodes of the module bind. -/
theorem soundWithin_ofModule {m : Module} {top : Scope} (h : Scope.ofModule m = .ok top) :
    SoundWithin (fun name => ∃ k ∈ m.nodes, Binds file k name) none top := by
  rw [Scope.ofModule] at h
  obtain ⟨asked, -, h⟩ := Attempt.of_bind_eq_ok h
  obtain ⟨⟨_, b⟩, hrun, h⟩ := Attempt.of_bind_eq_ok h
  obtain ⟨hb, hgrows⟩ := keeps_stmts (I := fun name => ∃ k ∈ m.nodes, Binds file k name) file m.body
    (fun s hs k hk name hname => ⟨k, List.mem_flatMap.mpr ⟨s, hs, hk⟩, hname⟩) _ _ _ hrun
    ⟨List.cons_ne_nil _ _, rfl, List.forall_mem_nil _, List.forall_mem_nil _, by simp, trivial⟩
  obtain ⟨o, rest, -, hrest, hstack⟩ := List.forall₂_cons_left_iff.mp hgrows
  cases hrest
  dsimp only at h
  rw [hstack] at h
  obtain ⟨⟨s, free⟩, hs, h⟩ := Attempt.of_bind_eq_ok h
  cases h
  have hsound := hb.sound
  rw [hstack] at hsound
  refine soundWithin_resolved _ (resolved_of_resolve _ hs) ?_
  rw [SoundWithin, owned, List.forall_mem_cons]
  refine ⟨hsound.1, fun p hp => ?_⟩
  obtain ⟨c, hc, hp⟩ := exists_of_mem_ownedAll hp
  exact hsound.2.1 c hc p hp

end Bound

end Collecting

/-! ## Checked files -/

theorem exists_use_of_occurrenceAt? {file : String} {m : Module} {k : Node} {o : Occurrence}
    (top : Scope) (hk : k ∈ m.nodes) (ho : occurrenceAt? file k = some o) :
    ∃ u ∈ usesOf file top m, u.occurrence = o := by
  have hmem : o ∈ Step.occurrencesAll (Step.ofModule file true m) :=
    (Multiset.coe_eq_coe.mp (bagOf_ofModule file true m)).mem_iff.mpr
      (List.mem_filterMap.mpr ⟨k, hk, ho⟩)
  rw [← usesOf_map_occurrence true file top m] at hmem
  exact List.mem_map.mp hmem

/-- Each name that is bound in a scope of a checked file, but for that of the iterable of a
comprehension, is the name of a use that defines it or of a pattern that captures it, in the
spelling of the class around the scope. -/
theorem checkFile_binds {file source : String} {m : Module} {c : CheckResults}
    (hm : (parseFile file source).tree = some m)
    (hc : (checkFile (parseFile file source)).value = some c) :
    ∀ p ∈ owned none c.scopes, ∀ s ∈ p.2.frame.symbols, s.isBound → s.name ≠ ".0" →
      (∃ u ∈ c.uses, u.isDefinition ∧ mangle p.1 u.name = s.name) ∨
      ∃ k ∈ m.nodes, ∃ name, captured? k = some name ∧ mangle p.1 name = s.name := by
  intro p hp s hs hbound hzero
  obtain ⟨htop, huses⟩ := ofModule_of_checkFile hm hc
  rcases Collecting.soundWithin_ofModule file htop p hp s hs hbound with hname | ⟨name, hI, hname⟩
  · exact absurd hname hzero
  obtain ⟨k, hk, ⟨o, ho, hdefinition, rfl⟩ | hcaptured⟩ := hI
  · obtain ⟨u, hu, rfl⟩ := exists_use_of_occurrenceAt? c.scopes hk ho
    exact .inl ⟨u, huses ▸ hu, hdefinition, hname⟩
  · exact .inr ⟨k, hk, name, hcaptured, hname⟩

/-- Here a name is bound that no use defines, because a pattern captures it. -/
theorem checkFile_binds_captured : ∃ m c,
    (parseFile "m.py" "match 1:\n    case y: pass\n").tree = some m ∧
    (checkFile (parseFile "m.py" "match 1:\n    case y: pass\n")).value = some c ∧
    (c.scopes.frame.symbols.any fun s => s.name == "y" && s.isBound) ∧ c.uses = [] ∧
    ∀ p ∈ owned none c.scopes, ∀ s ∈ p.2.frame.symbols, s.isBound → s.name ≠ ".0" →
      (∃ u ∈ c.uses, u.isDefinition ∧ mangle p.1 u.name = s.name) ∨
      ∃ k ∈ m.nodes, ∃ name, captured? k = some name ∧ mangle p.1 name = s.name := by
  have hrun : ((parseFile "m.py" "match 1:\n    case y: pass\n").tree.any fun _ =>
      (checkFile (parseFile "m.py" "match 1:\n    case y: pass\n")).value.any fun c =>
        (c.scopes.frame.symbols.any fun s => s.name == "y" && s.isBound) && c.uses.isEmpty) =
          true := by
    decide +kernel
  obtain ⟨m, hm, hrun⟩ := (Option.any_eq_true _ _).mp hrun
  obtain ⟨c, hc, hrun⟩ := (Option.any_eq_true _ _).mp hrun
  rw [Bool.and_eq_true] at hrun
  exact ⟨m, c, hm, hc, hrun.1, List.isEmpty_iff.mp hrun.2, checkFile_binds hm hc⟩

end Assay.Check
