import Assay.Proofs.CollectRuns
import Assay.Proofs.Occurrences
import Mathlib.Data.List.Perm.Basic

/-! # Collecting symbols along the steps of the walk

Scopes fit steps of the walk if each step into a construct has a scope with its number, name and
line among the scopes of the construct around it, each scope belongs to such a step, the scopes
stand in the order of their numbers, and each name that the walk looks up is a symbol of the scope
that the step is taken in, in the spelling of the class around it. A part of the collection belongs
to some steps if the scopes and symbols that it adds fit them, and such parts are put together as
the steps are, up to their order.
-/

namespace Assay.Check

open Source

/-! ## Fitting -/

/-- A name that only gets a hint: it stands in parentheses and has no value. -/
def hintedOnly? : Node → Option (String × Span)
  | .stmt (.annotate _ (.name span id .store) _ none false) => some (id, span)
  | _ => none

/-- The class whose private names are spelled with its name inside a scope. -/
def ownerWithin (owner : Option String) (frame : ScopeFrame) : Option String :=
  if frame.kind = .classBody then some frame.name else owner

/-- The numbers of scopes. -/
def idsOf (scopes : List Scope) : List Nat := scopes.map (·.frame.id)

/-- Each of some scopes belongs to one of some steps. -/
def Belong (scopes : List Scope) (steps : List Step) : Prop :=
  ∀ id ∈ idsOf scopes, ∃ name line inside, .into (some id) name line inside ∈ steps

/-- Scopes stand in the order of their numbers. -/
def Numbered (scopes : List Scope) : Prop := (idsOf scopes).Pairwise (· < ·)

namespace Step

variable (loose : String × Range → Prop)

mutual

/-- A step fits names and scopes that are seen where it is taken. Some names that it looks up may be
missing. -/
def Fits (owner : Option String) (names : List String) (scopes : List Scope) : Step → Prop
  | mention name range _ scope => scope ≠ some .unknown ∧
      (scope = none → loose (name, range) ∨ mangle owner name ∈ names)
  | into none _ _ _ => True
  | into (some id) name line inside => ∃ s ∈ scopes,
      s.frame.id = id ∧ s.frame.name = name ∧ s.frame.line = line ∧
        AllFit (ownerWithin owner s.frame) (namesOf s.frame) s.children inside ∧
        Belong s.children inside ∧ Numbered s.children

/-- Steps fit names and scopes. -/
def AllFit (owner : Option String) (names : List String) (scopes : List Scope) :
    List Step → Prop
  | [] => True
  | s :: rest => Fits owner names scopes s ∧ AllFit owner names scopes rest

end

variable {loose} {owner : Option String} {names names' : List String} {scopes scopes' : List Scope}

theorem allFit_iff {steps : List Step} :
    AllFit loose owner names scopes steps ↔ ∀ s ∈ steps, s.Fits loose owner names scopes := by
  induction steps with
  | nil => simp [AllFit]
  | cons s rest ih => rw [AllFit, ih, List.forall_mem_cons]

theorem allFit_append {first second : List Step} :
    AllFit loose owner names scopes (first ++ second) ↔
      AllFit loose owner names scopes first ∧ AllFit loose owner names scopes second := by
  simp only [allFit_iff, List.forall_mem_append]

theorem Fits.mono {s : Step} (h : s.Fits loose owner names scopes) (hnames : names ⊆ names')
    (hscopes : scopes ⊆ scopes') : s.Fits loose owner names' scopes' := by
  cases s with
  | mention name range isDefinition scope =>
      exact ⟨h.1, fun hscope => (h.2 hscope).imp_right fun hmem => hnames hmem⟩
  | into table name line inside =>
      cases table with
      | none => trivial
      | some id =>
          obtain ⟨s, hs, hfit⟩ := h
          exact ⟨s, hscopes hs, hfit⟩

theorem AllFit.mono {steps : List Step} (h : AllFit loose owner names scopes steps)
    (hnames : names ⊆ names') (hscopes : scopes ⊆ scopes') :
    AllFit loose owner names' scopes' steps :=
  allFit_iff.mpr fun s hs => (allFit_iff.mp h s hs).mono hnames hscopes

/-! ## Tables -/

mutual

/-- The tables of the constructs that a step goes into, in the order of the walk. -/
def tables : Step → List (Option Nat)
  | mention .. => []
  | into table _ _ inside => table :: tablesAll inside

/-- The tables of the constructs that steps go into. -/
def tablesAll : List Step → List (Option Nat)
  | [] => []
  | s :: rest => tables s ++ tablesAll rest

end

/-- The numbers of the scopes that steps go into. -/
def numbers (steps : List Step) : List Nat := (tablesAll steps).filterMap id

@[simp] theorem numbers_nil : numbers [] = [] := rfl

theorem tablesAll_eq_flatMap (steps : List Step) : tablesAll steps = steps.flatMap tables := by
  induction steps with
  | nil => rfl
  | cons s rest ih => rw [tablesAll, ih, List.flatMap_cons]

@[simp] theorem tablesAll_append (first second : List Step) :
    tablesAll (first ++ second) = tablesAll first ++ tablesAll second := by
  simp only [tablesAll_eq_flatMap, List.flatMap_append]

@[simp] theorem numbers_append (first second : List Step) :
    numbers (first ++ second) = numbers first ++ numbers second := by
  rw [numbers, tablesAll_append, List.filterMap_append, numbers, numbers]

theorem numbers_perm {steps steps' : List Step} (h : steps.Perm steps') :
    (numbers steps).Perm (numbers steps') := by
  simp only [numbers, tablesAll_eq_flatMap]
  exact (h.flatMap_right tables).filterMap id

@[simp] theorem numbers_into (id : Nat) (name : String) (line : Nat) (inside : List Step) :
    numbers [into (some id) name line inside] = id :: numbers inside := by
  simp [numbers, tablesAll, tables]

/-- Whether all constructs have scopes that leave a trace. -/
def traced (steps : List Step) : Bool := (tablesAll steps).all Option.isSome

@[simp] theorem traced_append (first second : List Step) :
    traced (first ++ second) = (traced first && traced second) := by
  rw [traced, tablesAll_append, List.all_append, traced, traced]

theorem traced_cons (id : Nat) (name : String) (line : Nat) (inside rest : List Step) :
    traced (into (some id) name line inside :: rest) = (traced inside && traced rest) := by
  rw [traced, tablesAll, tables, List.all_append, List.all_cons]
  rfl

theorem traced_perm {steps steps' : List Step} (h : steps.Perm steps') :
    traced steps = traced steps' := by
  simp only [traced, tablesAll_eq_flatMap]
  exact (h.flatMap_right tables).all_eq

theorem untracedAll_eq_map (steps : List Step) : untracedAll steps = steps.map untraced := by
  induction steps with
  | nil => rfl
  | cons s rest ih => rw [untracedAll, ih, List.map_cons]

mutual

theorem tables_untraced : (s : Step) → ∀ table ∈ s.untraced.tables, table = none
  | mention .. => List.forall_mem_nil _
  | into _ name line inside => by
      rw [untraced, tables, List.forall_mem_cons]
      exact ⟨rfl, tablesAll_untracedAll inside⟩

theorem tablesAll_untracedAll : (steps : List Step) →
    ∀ table ∈ tablesAll (untracedAll steps), table = none
  | [] => List.forall_mem_nil _
  | s :: rest => by
      rw [untracedAll, tablesAll, List.forall_mem_append]
      exact ⟨tables_untraced s, tablesAll_untracedAll rest⟩

end

@[simp] theorem numbers_untracedAll (steps : List Step) : numbers (untracedAll steps) = [] :=
  List.filterMap_eq_nil_iff.mpr (tablesAll_untracedAll steps)

end Step

theorem allFit_untracedAll {loose : String × Range → Prop} {owner : Option String}
    {names : List String} {scopes : List Scope} {steps : List Step}
    (h : Step.AllFit loose owner names scopes steps) (hloose : ∀ p, loose p)
    (owner' : Option String) (names' : List String) (scopes' : List Scope) :
    Step.AllFit loose owner' names' scopes' (Step.untracedAll steps) := by
  rw [Step.allFit_iff, Step.untracedAll_eq_map, List.forall_mem_map]
  intro s hs
  have hfit := Step.allFit_iff.mp h s hs
  cases s with
  | mention name range isDefinition scope => exact ⟨hfit.1, fun _ => .inl (hloose _)⟩
  | into table name line inside => trivial

theorem mem_numbers {id : Nat} {name : String} {line : Nat} {inside steps : List Step}
    (h : .into (some id) name line inside ∈ steps) : id ∈ Step.numbers steps := by
  rw [Step.numbers, List.mem_filterMap]
  exact ⟨some id, by
    rw [Step.tablesAll_eq_flatMap]
    exact List.mem_flatMap.mpr ⟨_, h, List.mem_cons_self⟩, rfl⟩

/-! ## Growing states -/

namespace Collecting

variable (loose : String × Range → Prop)

/-- What a stretch of the collection that belongs to some steps does to the innermost open scope
and to those around it. -/
structure Extended (owner : Option String) (steps : List Step) (o o' : OpenScope)
    (rest rest' : List OpenScope) (new : List Scope) : Prop where
  grows : Grows o o'
  waits : List.Forall₂ Waits rest rest'
  children_eq : o'.children = o.children ++ new
  fit : Step.AllFit loose owner (namesOf o'.frame) new steps
  belong : Belong new steps
  numbered : Numbered new

/-- What a stretch of the collection that belongs to some steps does to the state. -/
structure Added (b b' : ScopeBuilder) (count : Nat) (steps : List Step) : Prop where
  count_eq : b'.count = b.count + count
  privateTo_eq : b'.privateTo = b.privateTo
  hintsEvaluated_eq : b'.hintsEvaluated = b.hintsEvaluated
  traced : b.hintsEvaluated = true → Step.traced steps
  nodup : (Step.numbers steps).Nodup
  range : ∀ n ∈ Step.numbers steps, b.count ≤ n ∧ n < b.count + count
  stack : ∃ o rest o' rest' new, b.stack = o :: rest ∧ b'.stack = o' :: rest' ∧
    Extended loose b.privateTo steps o o' rest rest' new

variable {loose} {b b' b'' : ScopeBuilder} {count more : Nat} {steps steps' : List Step}

theorem Added.trans (h : Added loose b b' count steps) (h' : Added loose b' b'' more steps') :
    Added loose b b'' (count + more) (steps ++ steps') := by
  obtain ⟨o, rest, o', rest', new, hb, hb', hfirst⟩ := h.stack
  obtain ⟨p, _, p', rest'', new', hp, hb'', hsecond⟩ := h'.stack
  obtain ⟨rfl, rfl⟩ : o' = p ∧ rest' = _ := List.cons.inj (hb'.symm.trans hp)
  have hrange := h.range
  have hrange' := h'.range
  rw [h.count_eq] at hrange'
  -- scopes are numbered as they are opened, so those of the second part have the larger numbers
  have hbefore : ∀ m ∈ Step.numbers steps, ∀ n ∈ Step.numbers steps', m < n := fun m hm n hn =>
    (hrange m hm).2.trans_le (hrange' n hn).1
  refine ⟨by rw [h'.count_eq, h.count_eq, Nat.add_assoc], h'.privateTo_eq.trans h.privateTo_eq,
    h'.hintsEvaluated_eq.trans h.hintsEvaluated_eq, ?traced, ?nodup, ?range,
    o, rest, p', rest'', new ++ new', hb, hb'', ?stack⟩
  case traced =>
    intro hhints
    rw [Step.traced_append, h.traced hhints, h'.traced (h.hintsEvaluated_eq.trans hhints)]
    rfl
  case nodup =>
    rw [Step.numbers_append]
    exact h.nodup.append h'.nodup fun m hm hm' => (hbefore m hm m hm').false
  case range =>
    intro n hn
    rw [Step.numbers_append, List.mem_append] at hn
    rcases hn with hn | hn
    · have := hrange n hn
      omega
    · have := hrange' n hn
      omega
  case stack =>
    have hsteps {id : Nat} {scopes : List Scope} {steps : List Step} (hbelong : Belong scopes steps)
        (hid : id ∈ idsOf scopes) : id ∈ Step.numbers steps := by
      obtain ⟨name, line, inside, hmem⟩ := hbelong id hid
      exact mem_numbers hmem
    refine ⟨hfirst.grows.trans hsecond.grows, forall₂_trans hfirst.waits hsecond.waits, ?_,
      ?_, ?_, ?_⟩
    · rw [hsecond.children_eq, hfirst.children_eq, List.append_assoc]
    · rw [Step.allFit_append]
      rw [h.privateTo_eq] at hsecond
      exact ⟨hfirst.fit.mono hsecond.grows.names (List.subset_append_left _ _),
        hsecond.fit.mono (List.Subset.refl _) (List.subset_append_right _ _)⟩
    · intro id hid
      rw [idsOf, List.map_append, List.mem_append] at hid
      rcases hid with hid | hid
      · obtain ⟨name, line, inside, hmem⟩ := hfirst.belong id hid
        exact ⟨name, line, inside, List.mem_append_left _ hmem⟩
      · obtain ⟨name, line, inside, hmem⟩ := hsecond.belong id hid
        exact ⟨name, line, inside, List.mem_append_right _ hmem⟩
    · rw [Numbered, idsOf, List.map_append, List.pairwise_append]
      exact ⟨hfirst.numbered, hsecond.numbered, fun m hm n hn =>
        hbefore m (hsteps hfirst.belong hm) n (hsteps hsecond.belong hn)⟩

/-- Steps may be put into another order: the scopes are in the order of the collection anyway. -/
theorem Added.perm (h : Added loose b b' count steps) (hperm : steps.Perm steps') :
    Added loose b b' count steps' := by
  obtain ⟨o, rest, o', rest', new, hb, hb', hext⟩ := h.stack
  refine ⟨h.count_eq, h.privateTo_eq, h.hintsEvaluated_eq,
    fun hhints => Step.traced_perm hperm ▸ h.traced hhints,
    (Step.numbers_perm hperm).nodup_iff.mp h.nodup,
    fun n hn => h.range n ((Step.numbers_perm hperm).mem_iff.mpr hn),
    o, rest, o', rest', new, hb, hb', hext.grows, hext.waits, hext.children_eq, ?_, ?_,
    hext.numbered⟩
  · have hfit := Step.allFit_iff.mp hext.fit
    exact Step.allFit_iff.mpr fun s hs => hfit s (hperm.mem_iff.mpr hs)
  · intro id hid
    obtain ⟨name, line, inside, hmem⟩ := hext.belong id hid
    exact ⟨name, line, inside, hperm.mem_iff.mp hmem⟩

/-- Scopes that only grow belong to no step, or to the mentions of names that they got. -/
theorem Added.of_waits {stack : List OpenScope} (hstack : b.stack ≠ [])
    (hwaits : List.Forall₂ Waits b.stack stack) : Added loose b { b with stack } 0 [] := by
  obtain ⟨o, rest, hb⟩ := List.exists_cons_of_ne_nil hstack
  rw [hb] at hwaits
  obtain ⟨o', rest', ho, hrest, rfl⟩ := List.forall₂_cons_left_iff.mp hwaits
  exact ⟨rfl, rfl, rfl, fun _ => rfl, List.nodup_nil, List.forall_mem_nil _, o, rest, o', rest', [],
    hb, rfl, ho.1, hrest, by rw [ho.2, List.append_nil], trivial, List.forall_mem_nil _,
    List.Pairwise.nil⟩

/-- The mention of a name that a scope has, or whose meaning is known, fits the scope. -/
theorem Added.mention (h : Added loose b b' count steps) {name : String} {range : Range}
    {isDefinition : Bool} {scope : Option UseScope} (hknown : scope ≠ some .unknown)
    (hname : scope = none → loose (name, range) ∨
      ∀ o ∈ b'.stack.head?, mangle b.privateTo name ∈ namesOf o.frame) :
    Added loose b b' count (.mention name range isDefinition scope :: steps) := by
  obtain ⟨o, rest, o', rest', new, hb, hb', hext⟩ := h.stack
  refine ⟨h.count_eq, h.privateTo_eq, h.hintsEvaluated_eq, h.traced, h.nodup, h.range,
    o, rest, o', rest', new, hb, hb', hext.grows, hext.waits, hext.children_eq, ?_, ?_,
    hext.numbered⟩
  · refine ⟨⟨hknown, fun hscope => (hname hscope).imp_right fun hmem => hmem o' ?_⟩, hext.fit⟩
    rw [hb', List.head?_cons, Option.mem_some_iff]
  · intro id hid
    obtain ⟨name, line, inside, hmem⟩ := hext.belong id hid
    exact ⟨name, line, inside, List.mem_cons_of_mem _ hmem⟩

/-! ### Opening and closing scopes -/

/-- Closing a scope gives it to the scope around it, and it belongs to the step into it. -/
theorem Added.close {o o' parent : OpenScope} {rest : List OpenScope} {owner : Option String}
    (h : Added loose (opened b o owner) b' count steps) (hstack : b.stack ≠ [])
    (hid : o.frame.id = b.count) (hempty : o.children = [])
    (howner : owner = ownerWithin b.privateTo o.frame) (hb' : b'.stack = o' :: parent :: rest) :
    Added loose b
      (closed b' { parent with children := parent.children ++ [.mk o'.frame o'.children] } rest
        b.privateTo)
      (count + 1) [.into (some b.count) o.frame.name o.frame.line steps] := by
  obtain ⟨_, _, _, _, new, ho, ho', hext⟩ := h.stack
  obtain ⟨rfl, rfl⟩ := List.cons.inj ho
  obtain ⟨rfl, rfl⟩ := List.cons.inj (hb'.symm.trans ho')
  obtain ⟨p, before, hp⟩ := List.exists_cons_of_ne_nil hstack
  have hwaits := hext.waits
  rw [hp, List.forall₂_cons] at hwaits
  have hcount : b'.count = b.count + 1 + count := h.count_eq
  have hrange : ∀ n ∈ Step.numbers steps, b.count + 1 ≤ n ∧ n < b.count + 1 + count := h.range
  refine ⟨by rw [closed, hcount, Nat.add_assoc, Nat.add_comm 1], rfl, h.hintsEvaluated_eq, ?traced,
    ?nodup, ?range, p, before, _, rest, [.mk o'.frame o'.children], hp, rfl,
    hwaits.1.1.withChildren _, hwaits.2, ?children, ?fit, ?belong, List.pairwise_singleton _ _⟩
  case traced =>
    intro hhints
    rw [Step.traced_cons, h.traced hhints]
    rfl
  case nodup =>
    rw [Step.numbers_into, List.nodup_cons]
    exact ⟨fun hmem => by have := hrange _ hmem; omega, h.nodup⟩
  case range =>
    intro n hn
    rw [Step.numbers_into, List.mem_cons] at hn
    rcases hn with rfl | hn
    · omega
    · have := hrange n hn
      omega
  case children => rw [hwaits.1.2]
  case fit =>
    refine ⟨⟨_, List.mem_singleton_self _, hext.grows.id_eq.trans hid, hext.grows.name_eq,
      hext.grows.line_eq, ?_⟩, trivial⟩
    have howner' : ownerWithin b.privateTo o'.frame = owner := by
      rw [howner, ownerWithin, ownerWithin, hext.grows.kind_eq, hext.grows.name_eq]
    have hchildren : o'.children = new := by rw [hext.children_eq, hempty, List.nil_append]
    dsimp only [Scope.frame, Scope.children]
    rw [howner', hchildren]
    exact ⟨hext.fit, hext.belong, hext.numbered⟩
  case belong =>
    intro id hmem
    have hid' : id = b.count :=
      (List.mem_singleton.mp hmem).trans (hext.grows.id_eq.trans hid)
    rw [hid']
    exact ⟨_, _, _, List.mem_singleton_self _⟩

/-- Closing the scope of hints that are not evaluated leaves no trace of it. -/
theorem Added.closeHints {o o' parent : OpenScope} {rest : List OpenScope}
    (h : Added loose (opened b o b.privateTo) b' count steps) (hloose : ∀ p, loose p)
    (hhints : b.hintsEvaluated = false)
    (hstack : b.stack ≠ []) (hb' : b'.stack = o' :: parent :: rest) :
    Added loose b (closed b' parent rest b.privateTo) (count + 1) (Step.untracedAll steps) := by
  obtain ⟨_, _, _, _, new, ho, ho', hext⟩ := h.stack
  obtain ⟨rfl, rfl⟩ := List.cons.inj ho
  obtain ⟨rfl, rfl⟩ := List.cons.inj (hb'.symm.trans ho')
  obtain ⟨p, before, hp⟩ := List.exists_cons_of_ne_nil hstack
  have hwaits := hext.waits
  rw [hp, List.forall₂_cons] at hwaits
  have hcount : b'.count = b.count + 1 + count := h.count_eq
  refine ⟨by rw [closed, hcount, Nat.add_assoc, Nat.add_comm 1], rfl, h.hintsEvaluated_eq,
    fun hevaluated => absurd (hhints.symm.trans hevaluated) Bool.false_ne_true, ?_, ?_,
    p, before, parent, rest, [], hp, rfl, hwaits.1.1, hwaits.2, ?_,
    allFit_untracedAll hext.fit hloose _ _ _, List.forall_mem_nil _, List.Pairwise.nil⟩
  · rw [Step.numbers_untracedAll]
    exact List.nodup_nil
  · rw [Step.numbers_untracedAll]
    exact List.forall_mem_nil _
  · rw [hwaits.1.2, List.append_nil]

/-! ## Reading the collection backwards -/

section Runs

variable {α β : Type}

variable (loose) (evaluated : Bool)

/-- A part of the collection belongs to some steps, which are given as those from a number on. -/
def Adds (x : Collect α) (count : Nat) (steps : Nat → List Step) : Prop :=
  ∀ b a b', x.run b = .ok (a, b') → b.stack ≠ [] → b.hintsEvaluated = evaluated →
    Added loose b b' count (steps b.count)

/-- A part of the collection belongs to no steps. -/
def Quiet (x : Collect α) : Prop := Adds loose evaluated x 0 fun _ => []

variable {loose evaluated} {x : Collect α} {f : α → Collect β} {L M : Nat → List Step}

theorem Added.stack_ne_nil (h : Added loose b b' count steps) : b'.stack ≠ [] := by
  obtain ⟨_, _, _, _, _, _, hb', _⟩ := h.stack
  rw [hb']
  exact List.cons_ne_nil _ _

namespace Adds

theorem bind (hx : Adds loose evaluated x count L) (hf : ∀ a, Adds loose evaluated (f a) more M) :
    Adds loose evaluated (x >>= f) (count + more) fun n => L n ++ M (n + count) := by
  intro b c b'' hrun hstack hhints
  obtain ⟨a, b', hfirst, hsecond⟩ := Collect.run_bind_ok hrun
  have hadded := hx b a b' hfirst hstack hhints
  have hadded' := hf a b' c b'' hsecond hadded.stack_ne_nil
    (hadded.hintsEvaluated_eq.trans hhints)
  rw [hadded.count_eq] at hadded'
  exact hadded.trans hadded'

theorem perm (hx : Adds loose evaluated x count L) (hperm : ∀ n, (L n).Perm (M n)) :
    Adds loose evaluated x count M := fun b a b' hrun hstack hhints =>
  (hx b a b' hrun hstack hhints).perm (hperm b.count)

theorem congr {count' : Nat} (hx : Adds loose evaluated x count L) (hcount : count = count')
    (hsteps : ∀ n, L n = M n) : Adds loose evaluated x count' M := by
  subst hcount
  exact hx.perm fun n => hsteps n ▸ List.Perm.refl _

end Adds

/-- What belongs to no steps may come first. -/
theorem Quiet.after (hx : Quiet loose evaluated x) (hf : ∀ a, Adds loose evaluated (f a) count L) :
    Adds loose evaluated (x >>= f) count L :=
  (Adds.bind hx hf).congr (Nat.zero_add _) fun _ => rfl

/-- What belongs to no steps may come last. -/
theorem Adds.before (hx : Adds loose evaluated x count L) (hf : ∀ a, Quiet loose evaluated (f a)) :
    Adds loose evaluated (x >>= f) count L :=
  (hx.bind hf).congr (Nat.add_zero _) fun _ => List.append_nil _

/-! ### Quiet parts -/

theorem quiet_of_waits
    (h : ∀ b a b', x.run b = .ok (a, b') → b.stack ≠ [] →
      ∃ stack, b' = { b with stack } ∧ List.Forall₂ Waits b.stack stack) :
    Quiet loose evaluated x := by
  intro b a b' hrun hstack _
  obtain ⟨stack, rfl, hwaits⟩ := h b a b' hrun hstack
  exact .of_waits hstack hwaits

theorem quiet_composes : Collect.Composes fun _ x => Quiet loose evaluated x where
  same h := quiet_of_waits fun b a b' hrun _ => ⟨b.stack, h b a b' hrun, List.forall₂_refl _⟩
  bind hx hf := Quiet.after hx hf

theorem quiet_modifyCurrent {f : OpenScope → OpenScope} (hf : ∀ o, Waits o (f o)) :
    Quiet loose evaluated (Collect.modifyCurrent f) :=
  quiet_of_waits fun b a b' hrun hstack => by
    obtain ⟨o, rest, ho⟩ := List.exists_cons_of_ne_nil hstack
    rw [Collect.run_modifyCurrent ho] at hrun
    rw [ho]
    exact ⟨f o :: rest, (congrArg Prod.snd (Except.ok.inj hrun)).symm,
      .cons (hf o) (List.forall₂_refl rest)⟩

theorem quiet_iterable (f : Nat → Nat) : Quiet loose evaluated (Collect.iterable f) :=
  quiet_modifyCurrent fun _ => ⟨⟨rfl, rfl, rfl, rfl, rfl, List.Subset.refl _⟩, rfl⟩

theorem quiet_iterating (on : Bool) : Quiet loose evaluated (Collect.iterating on) :=
  quiet_modifyCurrent fun _ => ⟨⟨rfl, rfl, rfl, rfl, rfl, List.Subset.refl _⟩, rfl⟩

theorem quiet_direct (name : String) (line : Nat) :
    Quiet loose evaluated (Collect.direct name line) :=
  quiet_composes.get.after fun _ => quiet_modifyCurrent fun _ =>
    ⟨⟨rfl, rfl, rfl, rfl, rfl, List.Subset.refl _⟩, rfl⟩

/-! ### Names -/

theorem quiet_defineAt (depth : Nat) (name : String) (role : SymbolRole) (line : Nat) :
    Quiet loose evaluated (Collect.defineAt depth name role line) :=
  quiet_of_waits fun b _ b' hrun _ => by
    obtain ⟨stack, hat, rfl⟩ := Collect.run_defineAt_ok hrun
    have hwaits := waits_modifyAt (fun _ _ h => (waits_define h).1) hat
    refine ⟨_, rfl, ?_⟩
    split
    · exact forall₂_trans hwaits (waits_declareAtTop _ _)
    · exact hwaits

theorem name_of_modifyAt {written name : String} {role : SymbolRole} {line : Nat} {os os' : List OpenScope}
    (h : Collect.modifyAt (·.define written name role line) 0 os = .ok os') :
    ∀ o ∈ os'.head?, name ∈ namesOf o.frame := by
  cases os with
  | nil =>
      rw [Collect.modifyAt] at h
      cases h
      exact fun o ho => by cases ho
  | cons o rest =>
      rw [Collect.modifyAt] at h
      cases ho : o.define written name role line with
      | error fault => simp [ho] at h
      | ok o' =>
          simp [ho] at h
          cases h
          intro p hp
          rw [← Option.mem_some_iff.mp hp]
          exact (waits_define ho).2

theorem name_of_waits {name : String} {os os' : List OpenScope} (hwaits : List.Forall₂ Waits os os')
    (h : ∀ o ∈ os.head?, name ∈ namesOf o.frame) : ∀ o ∈ os'.head?, name ∈ namesOf o.frame := by
  cases hwaits with
  | nil => exact h
  | cons ho _ =>
      intro p hp
      rw [← Option.mem_some_iff.mp hp]
      exact ho.1.names (h _ rfl)

/-- A name that gets a role in the innermost scope may be mentioned there. -/
theorem adds_define (name : String) (role : SymbolRole) (line : Nat) (range : Range)
    (isDefinition : Bool) :
    Adds loose evaluated (Collect.define name role line) 0 fun _ =>
      [.mention name range isDefinition none] := by
  intro b u b' hrun hstack hhints
  have hquiet : Added loose b b' 0 [] :=
    quiet_defineAt 0 name role line b u b' hrun hstack hhints
  refine hquiet.mention (by simp) fun _ => .inr ?_
  obtain ⟨stack, hat, rfl⟩ := Collect.run_defineAt_ok hrun
  have hname := name_of_modifyAt hat
  dsimp only
  split
  · exact name_of_waits (waits_declareAtTop _ _) hname
  · exact hname

theorem quiet_define (name : String) (role : SymbolRole) (line : Nat) :
    Quiet loose evaluated (Collect.define name role line) := quiet_defineAt 0 name role line

/-- A name is bound before something else, and may be mentioned first. -/
theorem Adds.binding (hx : Adds loose evaluated x count L) (name : String) (role : SymbolRole)
    (line : Nat) (range : Range) (isDefinition : Bool) :
    Adds loose evaluated (do
      Collect.define name role line
      x) count fun n => .mention name range isDefinition none :: L n :=
  ((adds_define name role line range isDefinition).bind fun _ => hx).congr (Nat.zero_add _)
    fun _ => rfl

theorem quiet_extendWalrus (name : String) (line depth : Nat) (os : List OpenScope) :
    Quiet loose evaluated (Collect.extendWalrus name line depth os) := by
  induction os generalizing depth with
  | nil => exact quiet_composes.pure _
  | cons o rest ih =>
      refine quiet_composes.get.after fun b => ?_
      dsimp only
      split
      · split
        · exact quiet_composes.fault _ _
        · exact ih _
      · exact ih _
      · exact (quiet_define _ _ _).after fun _ => (quiet_direct _ _).after fun _ =>
          quiet_defineAt _ _ _ _
      · exact (quiet_define _ _ _).after fun _ => (quiet_direct _ _).after fun _ =>
          quiet_defineAt _ _ _ _
      · exact quiet_composes.fault _ _

/-- What follows a check of a role is only reached if the name does not have it. -/
theorem Adds.check (name : String) (role : SymbolRole) (fault : ScopeFault) (line : Nat)
    (hx : Adds loose evaluated x count L) :
    Adds loose evaluated (do
      if ← Collect.occursAs name role then Collect.fault fault line
      x) count L :=
  (quiet_composes.occursAs name role).after fun on => by
    split
    · exact (quiet_composes.fault _ _).after fun _ => hx
    · exact hx

/-- A name that is read or bound may be mentioned. -/
theorem adds_name (id : String) (access : Access) (line : Nat) (range : Range)
    (isDefinition : Bool) :
    Adds loose evaluated (Collect.name id access line) 0 fun _ =>
      [.mention id range isDefinition none] := by
  refine (adds_define id _ line range isDefinition).before fun _ => ?_
  split
  · exact quiet_composes.current.after fun o => quiet_composes.optional _ (quiet_define _ _ _)
  · exact quiet_composes.pure _

/-! ### Scopes -/

/-- What stands in a scope when it is closed, together with the scopes around it. -/
theorem Added.around {o : OpenScope} {owner : Option String}
    (h : Added loose (opened b o owner) b' count steps) (hstack : b.stack ≠ []) :
    ∃ o' parent rest, b'.stack = o' :: parent :: rest ∧ o'.kind = o.kind := by
  obtain ⟨_, _, o', _, _, ho, ho', hext⟩ := h.stack
  obtain ⟨rfl, rfl⟩ := List.cons.inj ho
  obtain ⟨p, before, hp⟩ := List.exists_cons_of_ne_nil hstack
  have hwaits := hext.waits
  rw [hp] at hwaits
  obtain ⟨parent, rest, _, _, rfl⟩ := List.forall₂_cons_left_iff.mp hwaits
  exact ⟨o', parent, rest, ho', hext.grows.openKind_eq⟩

variable {body : Collect Unit}

/-- A function, or what is like one, is gone into. -/
theorem adds_scope (kind : OpenKind) (name : String) (line : Nat) (hhint : kind ≠ .hint)
    (hclass : kind ≠ .named .classBody) (hbody : Adds loose evaluated body count L) :
    Adds loose evaluated (do
        Collect.enter kind name line
        body
        Collect.leave) (count + 1) fun n => [.into (some n) name line (L (n + 1))] := by
  intro b u b' hrun hstack hhints
  obtain ⟨o, b₁, ⟨hid, rfl, rfl, hempty, -, rfl, hkind⟩, hinside, hleave⟩ :=
    Collect.run_scope_ok hrun
  have hadded := hbody _ _ _ hinside (List.cons_ne_nil _ _) hhints
  obtain ⟨o', parent, rest, hb₁, ho'⟩ := hadded.around hstack
  rw [Collect.run_leave hb₁ (ho' ▸ hhint)] at hleave
  cases hleave
  rw [hadded.privateTo_eq]
  refine hadded.close hstack hid hempty ?_ hb₁
  rw [ownerWithin, if_neg fun h => hclass (hkind.mp h)]

/-- The body of a class is gone into, where private names are spelled with its name. -/
theorem adds_classBody (name : String) (line : Nat) (hbody : Adds loose evaluated body count L) :
    Adds loose evaluated (do
        Collect.enter (.named .classBody) name line
        let outer := (← get).privateTo
        modify ({ · with privateTo := some name })
        body
        modify ({ · with privateTo := outer })
        Collect.leave) (count + 1) fun n => [.into (some n) name line (L (n + 1))] := by
  intro b u b' hrun hstack hhints
  obtain ⟨o, b₁, ⟨hid, rfl, rfl, hempty, -, ho, hkind⟩, hinside, hleave⟩ :=
    Collect.run_classBody_ok hrun
  have hadded := hbody _ _ _ hinside (List.cons_ne_nil _ _) hhints
  obtain ⟨o', parent, rest, hb₁, ho'⟩ := hadded.around hstack
  have hclosed := Collect.run_leave (b := { b₁ with privateTo := b.privateTo }) hb₁
    (by simp [ho', ho])
  cases hclosed.symm.trans hleave
  refine hadded.close hstack hid hempty ?_ hb₁
  rw [ownerWithin, if_pos (hkind.mpr rfl)]

/-- Hints are gone through, in a scope without trace if they are not evaluated. -/
theorem adds_hints {es : List Expr} {line : Nat} (hloose : evaluated = false → ∀ p, loose p)
    (hes : Adds loose evaluated (Collect.exprs es) (Expr.openedAll es) L) :
    Adds loose evaluated (Collect.hints es line) (openedHints evaluated es)
      fun n => Step.ofHints evaluated n L := by
  intro b u b' hrun hstack hhints
  obtain ⟨_, b₁, hrun₁, hrun⟩ := Collect.run_bind_ok hrun
  cases hrun₁
  rw [hhints] at hrun
  cases evaluated with
  | true => exact hes b u b' hrun hstack hhints
  | false =>
      obtain ⟨o, b₁, hfresh, hinside, hleave⟩ := Collect.run_scope_ok hrun
      have hadded := hes _ _ _ hinside (List.cons_ne_nil _ _) hhints
      obtain ⟨o', parent, rest, hb₁, ho'⟩ := hadded.around hstack
      rw [Collect.run_leave_hint hb₁ (ho'.trans hfresh.kind_eq)] at hleave
      cases hleave
      rw [hadded.privateTo_eq]
      exact hadded.closeHints (hloose rfl) hhints hstack hb₁

theorem Adds.looseMention (hx : Adds loose evaluated x count L) {name : String} {range : Range}
    (h : loose (name, range)) (isDefinition : Bool) :
    Adds loose evaluated x count fun n => .mention name range isDefinition none :: L n :=
  fun b a b' hrun hstack hhints => (hx b a b' hrun hstack hhints).mention (by simp) fun _ => .inl h

/-- A name with a hint is bound before something else, but for one in parentheses without a
value. -/
theorem Adds.hintedName (hx : Adds loose evaluated x count L) (id : String) (line : Nat)
    (range : Range) (bare hasValue : Bool)
    (h : bare = false → hasValue = false → loose (id, range)) :
    Adds loose evaluated
      (if bare then do
        Collect.define id .hinted line
        Collect.define id .assigned line
        x
      else if hasValue then do
        Collect.define id .assigned line
        x
      else x) count fun n => .mention id range true none :: L n := by
  have hbound := hx.binding id .assigned line range true
  cases bare with
  | true => exact (quiet_define _ _ _).after fun _ => hbound
  | false =>
      cases hasValue with
      | true => exact hbound
      | false => exact hx.looseMention (h rfl rfl) true

/-- Mentions of names whose meaning is known fit any scope. -/
theorem adds_known (hx : Quiet loose evaluated x) {ι : Type} (is : List ι) {f : ι → Step}
    (hf : ∀ i, ∃ name range isDefinition, ∃ scope ≠ UseScope.unknown,
      f i = .mention name range isDefinition (some scope)) :
    Adds loose evaluated x 0 fun _ => is.map f := by
  intro b u b' hrun hstack hhints
  have hquiet : Added loose b b' 0 [] := hx b u b' hrun hstack hhints
  clear hrun
  induction is with
  | nil => exact hquiet
  | cons i is ih =>
      obtain ⟨name, range, isDefinition, scope, hknown, hi⟩ := hf i
      dsimp only
      rw [List.map_cons, hi]
      exact ih.mention (fun h => hknown (Option.some_inj.mp h)) (by simp)

end Runs

end Collecting

end Assay.Check
