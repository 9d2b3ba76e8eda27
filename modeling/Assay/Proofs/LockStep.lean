import Assay.Proofs.CollectedScopes

/-! # The walk side by side with the scopes

The walk finds the scope of a construct by its name and line among the scopes that it has not
entered yet. It enters the scope that was made for the very construct, everywhere, exactly if all
constructs have scopes and those of one name, one line and one scope around them come in the order
in which their scopes were made.
-/

namespace Assay.Check

open Source

/-! ## Being in step -/

namespace Walk

/-- The scope that the walk chooses when it comes to a construct. -/
def chosen? (w : Walk) (site : Site) (name : String) (line : Nat) : Option Scope :=
  (w.unclaimed? name (some line) site.current.children).or
    (w.unclaimed? name none site.current.children)

theorem enter_some {w : Walk} {site : Site} {name : String} {line : Nat} {s : Scope}
    (h : w.chosen? site name line = some s) :
    w.enter site name line =
      ({ site with inner := s :: site.inner }, { w with claimed := s.frame.id :: w.claimed }) := by
  unfold enter
  dsimp only
  rw [← chosen?, h]

theorem enter_none {w : Walk} {site : Site} {name : String} {line : Nat}
    (h : w.chosen? site name line = none) : w.enter site name line = (site, w) := by
  unfold enter
  dsimp only
  rw [← chosen?, h]

mutual

/-- Whenever a step goes into a construct, it enters the scope that was made for it. -/
def InStep (site : Site) : Step → Walk → Prop
  | .mention .., _ => True
  | .into table name line inside, w =>
      (∃ s, w.chosen? site name line = some s ∧ table = some s.frame.id) ∧
        AllInStep (w.enter site name line).1 inside (w.enter site name line).2

/-- Whenever one of some steps goes into a construct, it enters the scope that was made for it. -/
def AllInStep (site : Site) : List Step → Walk → Prop
  | [], _ => True
  | s :: rest, w => InStep site s w ∧ AllInStep site rest (playStep site s w)

end

end Walk

namespace Step

/-- Whether two constructs that are gone into one after the other have scopes in this order, if they
have one name and one line. -/
def before : Step → Step → Bool
  | into (some id) name line _, into (some id') name' line' _ =>
      name ≠ name' || line ≠ line' || id < id'
  | _, _ => true

mutual

/-- Whether the constructs inside a step come in the order of their scopes. -/
def ordered : Step → Bool
  | mention .. => true
  | into _ _ _ inside => inOrder inside

/-- Whether constructs of one name and one line come in the order of their scopes. -/
def inOrder : List Step → Bool
  | [] => true
  | s :: rest => ordered s && rest.all (before s) && inOrder rest

end

theorem numbers_cons (id : Nat) (name : String) (line : Nat) (inside rest : List Step) :
    numbers (into (some id) name line inside :: rest) = id :: (numbers inside ++ numbers rest) := by
  rw [← List.singleton_append, numbers_append, numbers_into, List.cons_append]

end Step

/-! ## Numbered scopes -/

section Numbered

variable {scopes : List Scope} {s t : Scope}

theorem eq_of_id_eq (h : Numbered scopes) (hs : s ∈ scopes) (ht : t ∈ scopes)
    (hid : s.frame.id = t.frame.id) : s = t :=
  List.inj_on_of_nodup_map (h.imp fun hlt => Nat.ne_of_lt hlt) hs ht hid

theorem id_le_of_find? (h : Numbered scopes) {p : Scope → Bool} (hs : scopes.find? p = some s)
    (ht : t ∈ scopes) (hp : p t) : s.frame.id ≤ t.frame.id := by
  obtain ⟨_, before, after, rfl, hbefore⟩ := List.find?_eq_some_iff_append.mp hs
  rw [Numbered, idsOf, List.map_append, List.map_cons, List.pairwise_append,
    List.pairwise_cons] at h
  rcases List.mem_append.mp ht with ht | ht
  · have := hbefore t ht
    simp [hp] at this
  · rcases List.mem_cons.mp ht with rfl | ht
    · exact Nat.le_refl _
    · exact Nat.le_of_lt (h.2.1.1 _ (List.mem_map_of_mem ht))

end Numbered

namespace Walk

variable {w : Walk} {site : Site} {name : String} {line : Nat} {s t : Scope}

theorem chosen?_free (h : w.chosen? site name line = some s) :
    s ∈ site.current.children ∧ s.frame.id ∉ w.claimed := by
  have hfree (asked : Option Nat) (h : w.unclaimed? name asked site.current.children = some s) :
      s ∈ site.current.children ∧ s.frame.id ∉ w.claimed := by
    have hs := List.find?_some h
    simp only [Bool.and_eq_true, Bool.not_eq_true', List.contains_eq_mem,
      decide_eq_false_iff_not] at hs
    exact ⟨List.mem_of_find?_eq_some h, hs.1.1⟩
  rcases Option.or_eq_some_iff.mp h with h | ⟨_, h⟩
  · exact hfree _ h
  · exact hfree _ h

/-- If a scope of the right name and line was not entered yet, the walk chooses such a scope, and
none with a larger number. -/
theorem exists_chosen? (hnumbered : Numbered site.current.children)
    (ht : t ∈ site.current.children) (hfree : t.frame.id ∉ w.claimed) (hname : t.frame.name = name)
    (hline : t.frame.line = line) :
    ∃ s ∈ site.current.children, w.chosen? site name line = some s ∧ s.frame.id ∉ w.claimed ∧
      s.frame.name = name ∧ s.frame.line = line ∧ s.frame.id ≤ t.frame.id := by
  cases hfind : w.unclaimed? name (some line) site.current.children with
  | none =>
      have := List.find?_eq_none.mp hfind t ht
      simp [hfree, hname, hline] at this
  | some s =>
      have hs := List.find?_some hfind
      simp only [Bool.and_eq_true, Bool.not_eq_true', List.contains_eq_mem,
        decide_eq_false_iff_not, beq_iff_eq, decide_eq_true_eq] at hs
      refine ⟨s, List.mem_of_find?_eq_some hfind, ?_, hs.1.1, hs.1.2, hs.2, ?_⟩
      · rw [chosen?, hfind, Option.some_or]
      · exact id_le_of_find? hnumbered hfind ht (by simp [hfree, hname, hline])

theorem claimed_subset_enter (w : Walk) (site : Site) (name : String) (line : Nat) :
    w.claimed ⊆ (w.enter site name line).2.claimed := by
  unfold enter
  dsimp only
  split
  · exact List.subset_cons_self _ _
  · exact List.Subset.refl _

mutual

theorem claimed_subset_playStep (site : Site) : (s : Step) → (w : Walk) →
    w.claimed ⊆ (playStep site s w).claimed
  | .mention .., _ => List.Subset.refl _
  | .into _ name line inside, w =>
      List.Subset.trans (claimed_subset_enter w site name line) (claimed_subset_play _ inside _)

theorem claimed_subset_play (site : Site) : (steps : List Step) → (w : Walk) →
    w.claimed ⊆ (play site steps w).claimed
  | [], _ => List.Subset.refl _
  | s :: rest, w =>
      List.Subset.trans (claimed_subset_playStep site s w) (claimed_subset_play site rest _)

end

/-- A construct that is still to come in step has a scope that was not entered yet. -/
theorem not_claimed_of_allInStep {site : Site} {id : Nat} {name : String} {line : Nat}
    {inside steps : List Step} (h : AllInStep site steps w)
    (hmem : .into (some id) name line inside ∈ steps) : id ∉ w.claimed := by
  induction steps generalizing w with
  | nil => cases hmem
  | cons s rest ih =>
      rcases List.mem_cons.mp hmem with rfl | hmem
      · obtain ⟨⟨⟨s, hs, hid⟩, _⟩, _⟩ := h
        rw [Option.some_inj.mp hid]
        exact (chosen?_free hs).2
      · exact fun hid => ih h.2 hmem (claimed_subset_playStep site s w hid)

end Walk

section Equivalence

variable {loose : String × Range → Prop}

/-- If a construct is entered in step, later ones of the same name and line have later scopes. -/
theorem before_of_inStep {owner : Option String} {names : List String} {site : Site} {w : Walk}
    {first : Step} {rest : List Step} {s : Scope} {name : String} {line : Nat} {inside : List Step}
    (hfirst : first = .into (some s.frame.id) name line inside)
    (hs : w.chosen? site name line = some s) (hnumbered : Numbered site.current.children)
    (hfit : Step.AllFit loose owner names site.current.children rest)
    (hrest : Walk.AllInStep site rest (Walk.playStep site first w)) :
    ∀ t ∈ rest, Step.before first t := by
  intro t ht
  have hfit := Step.allFit_iff.mp hfit t ht
  subst hfirst
  cases t with
  | mention => rfl
  | into table name' line' inside' =>
      cases table with
      | none => rfl
      | some id' =>
          by_cases hname : name = name'
          case neg => simp [Step.before, hname]
          by_cases hline : line = line'
          case neg => simp [Step.before, hline]
          obtain ⟨u, hu, huid, huname, huline, -⟩ := hfit
          -- the later scope is still free when the first is chosen, so the choice is not behind it
          have hlate := Walk.not_claimed_of_allInStep hrest ht
          have hclaimed : s.frame.id ∈
              (Walk.playStep site (.into (some s.frame.id) name line inside) w).claimed := by
            rw [Walk.playStep, Walk.enter_some hs]
            exact Walk.claimed_subset_play _ inside _ List.mem_cons_self
          have hfree : u.frame.id ∉ w.claimed := fun hmem =>
            hlate (huid ▸ Walk.claimed_subset_playStep site _ w hmem)
          obtain ⟨s', -, hs', -, -, -, hle⟩ := Walk.exists_chosen? hnumbered hu hfree
            (huname.trans hname.symm) (huline.trans hline.symm)
          obtain rfl : s = s' := Option.some_inj.mp (hs.symm.trans hs')
          have hne : s.frame.id ≠ id' := fun heq => hlate (heq ▸ hclaimed)
          simp only [Step.before, Bool.or_eq_true, decide_eq_true_eq]
          omega

/-- A walk in step goes through constructs that all have scopes, in the order of these. -/
theorem inOrder_of_allInStep : (steps : List Step) → ∀ (site : Site) {owner names w},
    Step.AllFit loose owner names site.current.children steps → Numbered site.current.children →
    Walk.AllInStep site steps w → Step.traced steps ∧ Step.inOrder steps
  | [], _, _, _, _, _, _, _ => ⟨rfl, rfl⟩
  | .mention .. :: rest, site, _, _, _, hfit, hnumbered, hstep => by
      obtain ⟨htraced, horder⟩ := inOrder_of_allInStep rest site hfit.2 hnumbered hstep.2
      refine ⟨htraced, ?_⟩
      rw [Step.inOrder, horder, Step.ordered, Bool.and_true, Bool.true_and, List.all_eq_true]
      exact fun _ _ => rfl
  | .into none _ _ _ :: rest, _, _, _, _, _, _, hstep => by
      obtain ⟨⟨⟨s, _, hs⟩, _⟩, _⟩ := hstep
      cases hs
  | .into (some id) name line inside :: rest, site, _, _, w, hfit, hnumbered, hstep => by
      obtain ⟨htraced, horder⟩ := inOrder_of_allInStep rest site hfit.2 hnumbered hstep.2
      obtain ⟨⟨⟨s, hs, hid⟩, hinside⟩, hrest⟩ := hstep
      obtain ⟨t, ht, htid, htname, htline, htfit, -, htnumbered⟩ := hfit.1
      cases hid
      obtain rfl : s = t := eq_of_id_eq hnumbered (Walk.chosen?_free hs).1 ht htid.symm
      rw [Walk.enter_some hs] at hinside
      obtain ⟨htraced', horder'⟩ := inOrder_of_allInStep inside
        { site with inner := s :: site.inner } htfit htnumbered hinside
      have hbefore := before_of_inStep rfl hs hnumbered hfit.2 hrest
      constructor
      · rw [Step.traced_cons, htraced, htraced', Bool.and_true]
      · rw [Step.inOrder, Step.ordered, horder, horder', Bool.true_and, Bool.and_true,
          List.all_eq_true]
        exact hbefore

/-- The scope that was made for a construct is chosen if the earlier constructs beside it have been
entered and no later one of its name and line has an earlier scope. -/
theorem chosen?_of_before {owner : Option String} {names : List String} {site : Site} {w : Walk}
    {earlier rest : List Step} {id : Nat} {name : String} {line : Nat} {inside : List Step}
    {t : Scope} (hfit : Step.AllFit loose owner names site.current.children
      (earlier ++ .into (some id) name line inside :: rest))
    (hbelong : Belong site.current.children (earlier ++ .into (some id) name line inside :: rest))
    (hnumbered : Numbered site.current.children)
    (hearlier : ∀ id name line inside, .into (some id) name line inside ∈ earlier →
      id ∈ w.claimed)
    (hfree : id ∉ w.claimed)
    (hbefore : ∀ s ∈ rest, Step.before (.into (some id) name line inside) s)
    (ht : t ∈ site.current.children) (htid : t.frame.id = id) (htname : t.frame.name = name)
    (htline : t.frame.line = line) : w.chosen? site name line = some t := by
  obtain ⟨s, hs, hchosen, hsfree, hsname, hsline, hle⟩ :=
    Walk.exists_chosen? hnumbered ht (htid ▸ hfree) htname htline
  obtain ⟨name', line', inside', hmem⟩ := hbelong s.frame.id (List.mem_map_of_mem hs)
  obtain ⟨u, hu, huid, huname, huline, -⟩ := Step.allFit_iff.mp hfit _ hmem
  obtain rfl : u = s := eq_of_id_eq hnumbered hu hs huid
  suffices hid : u.frame.id = id by
    rw [hchosen, eq_of_id_eq hnumbered hu ht (hid.trans htid.symm)]
  rcases List.mem_append.mp hmem with hmem | hmem
  · exact absurd (hearlier _ _ _ _ hmem) hsfree
  · rcases List.mem_cons.mp hmem with heq | hmem
    · exact Option.some_inj.mp (Step.into.inj heq).1
    · have hlt := hbefore _ hmem
      rw [← huname, ← huline, hsname, hsline] at hlt
      simp [Step.before] at hlt
      omega

/-- A walk through constructs that all have scopes, in the order of these, is in step. -/
theorem allInStep_of_inOrder : (steps : List Step) →
    -- `earlier` are the steps of the same construct that were taken already
    ∀ (site : Site) (w : Walk) (earlier : List Step) {owner names},
    Step.AllFit loose owner names site.current.children (earlier ++ steps) →
    Belong site.current.children (earlier ++ steps) → Numbered site.current.children →
    (∀ id name line inside, .into (some id) name line inside ∈ earlier → id ∈ w.claimed) →
    (Step.numbers steps).Nodup → (∀ n ∈ Step.numbers steps, n ∉ w.claimed) →
    Step.traced steps → Step.inOrder steps →
    Walk.AllInStep site steps w ∧
      ∀ n, n ∈ (Walk.play site steps w).claimed ↔ n ∈ w.claimed ∨ n ∈ Step.numbers steps
  | [], _, _, _, _, _, _, _, _, _, _, _, _, _ => ⟨trivial, fun n => by simp⟩
  | .mention name range isDefinition scope :: rest, site, w, earlier, _, _, hfit, hbelong,
      hnumbered, hearlier, hnodup, hfree, htraced, horder => by
      rw [List.append_cons] at hfit hbelong
      rw [Step.inOrder, Bool.and_eq_true] at horder
      obtain ⟨hstep, hclaimed⟩ := allInStep_of_inOrder rest site
        (Walk.playStep site (.mention name range isDefinition scope) w) _ hfit hbelong hnumbered
        (fun id name line inside hmem => by
          rcases List.mem_append.mp hmem with hmem | hmem
          · exact hearlier id name line inside hmem
          · cases List.mem_singleton.mp hmem)
        hnodup hfree htraced horder.2
      exact ⟨⟨trivial, hstep⟩, hclaimed⟩
  | .into none _ _ _ :: rest, _, _, _, _, _, _, _, _, _, _, _, htraced, _ => by
      cases htraced
  | .into (some id) name line inside :: rest, site, w, earlier, _, _, hfit, hbelong, hnumbered,
      hearlier, hnodup, hfree, htraced, horder => by
      rw [Step.numbers_cons, List.nodup_cons, List.nodup_append] at hnodup
      obtain ⟨hnew, hnodupInside, hnodupRest, hapart⟩ := hnodup
      rw [Step.numbers_cons] at hfree
      rw [Step.traced_cons, Bool.and_eq_true] at htraced
      rw [Step.inOrder, Step.ordered, Bool.and_eq_true, Bool.and_eq_true,
        List.all_eq_true] at horder
      obtain ⟨⟨horderInside, hbefore⟩, horderRest⟩ := horder
      obtain ⟨t, ht, htid, htname, htline, htfit, htbelong, htnumbered⟩ :=
        (Step.allFit_append.mp hfit).2.1
      have hchosen := chosen?_of_before hfit hbelong hnumbered hearlier
        (hfree id List.mem_cons_self) hbefore ht htid htname htline
      have henter := Walk.enter_some hchosen
      obtain ⟨hinside, hclaimedInside⟩ := allInStep_of_inOrder inside
        { site with inner := t :: site.inner } { w with claimed := t.frame.id :: w.claimed } []
        htfit htbelong htnumbered (by simp) hnodupInside
        (fun n hn hmem => by
          rcases List.mem_cons.mp hmem with rfl | hmem
          · exact hnew (htid ▸ List.mem_append_left _ hn)
          · exact hfree n (List.mem_cons_of_mem _ (List.mem_append_left _ hn)) hmem)
        htraced.1 horderInside
      have hplay : Walk.playStep site (.into (some id) name line inside) w =
          Walk.play { site with inner := t :: site.inner } inside
            { w with claimed := t.frame.id :: w.claimed } := by
        rw [Walk.playStep, henter]
      rw [← hplay] at hclaimedInside
      have hafter (n : Nat) :
          n ∈ (Walk.playStep site (.into (some id) name line inside) w).claimed ↔
            n = id ∨ n ∈ w.claimed ∨ n ∈ Step.numbers inside := by
        rw [hclaimedInside, List.mem_cons, htid, or_assoc]
      -- no scope of the rest was entered inside this construct, since the numbers differ
      rw [List.append_cons] at hfit hbelong
      obtain ⟨hrest, hclaimed⟩ := allInStep_of_inOrder rest site
        (Walk.playStep site (.into (some id) name line inside) w) _ hfit hbelong hnumbered
        (fun id' name' line' inside' hmem => by
          rw [hafter]
          rcases List.mem_append.mp hmem with hmem | hmem
          · exact .inr (.inl (hearlier _ _ _ _ hmem))
          · exact .inl (Option.some_inj.mp (Step.into.inj (List.mem_singleton.mp hmem)).1))
        hnodupRest
        (fun n hn hmem => by
          rcases (hafter n).mp hmem with rfl | hmem | hmem
          · exact hnew (List.mem_append_right _ hn)
          · exact hfree n (List.mem_cons_of_mem _ (List.mem_append_right _ hn)) hmem
          · exact hapart n hmem n hn rfl)
        htraced.2 horderRest
      refine ⟨⟨⟨⟨t, hchosen, by rw [htid]⟩, ?_⟩, hrest⟩, fun n => ?_⟩
      · rw [henter]
        exact hinside
      · rw [Walk.play_cons, hclaimed, hafter, Step.numbers_cons, List.mem_cons, List.mem_append]
        tauto

end Equivalence

/-! ## Checked files -/

/-- The uses of a checked file are those of a walk through the steps of its module. This walk is in
step, so that every construct is gone into with the very scope that was made for it, exactly if all
constructs have scopes that leave a trace and those of one name, one line and one scope around them
come in the order in which their scopes were made. -/
theorem checkFile_inStep_iff {file source : String} {m : Module} {c : CheckResults}
    (hm : (parseFile file source).tree = some m)
    (hc : (checkFile (parseFile file source)).value = some c) :
    c.uses = (Walk.play { file, top := c.scopes } (Step.ofModule file (hintsEvaluated m) m)
      {}).recorded.reverse ∧
    (Walk.AllInStep { file, top := c.scopes } (Step.ofModule file (hintsEvaluated m) m) {} ↔
      Step.traced (Step.ofModule file (hintsEvaluated m) m) ∧
        Step.inOrder (Step.ofModule file (hintsEvaluated m) m)) := by
  obtain ⟨htop, huses⟩ := ofModule_of_checkFile hm hc
  obtain ⟨-, hfit, hnodup, -⟩ := fitting_ofModule htop file (fun _ => True)
    (fun _ _ => trivial) fun _ _ _ _ => trivial
  refine ⟨huses.trans (usesOf_eq_play _ _ _ _), fun h => ?_, fun h => ?_⟩
  · exact inOrder_of_allInStep _ { file, top := c.scopes } hfit.fit hfit.numbered h
  · exact (allInStep_of_inOrder _ { file, top := c.scopes } {} [] hfit.fit
      hfit.belong hfit.numbered (by simp) hnodup (fun n _ hmem => by cases hmem) h.1 h.2).1

/-- A source that is walked through in step, and one that is not: the hint of a variadic parameter
comes after that of a parameter that is only given by name. -/
theorem checkFile_inStep_iff_variadic :
    (∃ m c, (parseFile "m.py" "[lambda: y for y in z]\n").tree = some m ∧
      (checkFile (parseFile "m.py" "[lambda: y for y in z]\n")).value = some c ∧
      Walk.AllInStep { file := "m.py", top := c.scopes }
        (Step.ofModule "m.py" (hintsEvaluated m) m) {}) ∧
    ∃ m c, (parseFile "m.py" "def f(*a: (lambda x: x), k: (lambda y: y)): pass\n").tree = some m ∧
      (checkFile (parseFile "m.py" "def f(*a: (lambda x: x), k: (lambda y: y)): pass\n")).value =
        some c ∧
      ¬Walk.AllInStep { file := "m.py", top := c.scopes }
        (Step.ofModule "m.py" (hintsEvaluated m) m) {} := by
  constructor
  · have hrun : ((parseFile "m.py" "[lambda: y for y in z]\n").tree.any fun m =>
        (checkFile (parseFile "m.py" "[lambda: y for y in z]\n")).value.isSome &&
          (Step.traced (Step.ofModule "m.py" (hintsEvaluated m) m) &&
            Step.inOrder (Step.ofModule "m.py" (hintsEvaluated m) m))) = true := by
      decide +kernel
    obtain ⟨m, hm, hrun⟩ := (Option.any_eq_true _ _).mp hrun
    rw [Bool.and_eq_true, Bool.and_eq_true] at hrun
    obtain ⟨c, hc⟩ := Option.isSome_iff_exists.mp hrun.1
    exact ⟨m, c, hm, hc, (checkFile_inStep_iff hm hc).2.mpr hrun.2⟩
  · have hrun : ((parseFile "m.py" "def f(*a: (lambda x: x), k: (lambda y: y)): pass\n").tree.any
        fun m => (checkFile (parseFile "m.py"
            "def f(*a: (lambda x: x), k: (lambda y: y)): pass\n")).value.isSome &&
          !Step.inOrder (Step.ofModule "m.py" (hintsEvaluated m) m)) = true := by
      decide +kernel
    obtain ⟨m, hm, hrun⟩ := (Option.any_eq_true _ _).mp hrun
    rw [Bool.and_eq_true, Bool.not_eq_true'] at hrun
    obtain ⟨c, hc⟩ := Option.isSome_iff_exists.mp hrun.1
    exact ⟨m, c, hm, hc, fun h =>
      Bool.false_ne_true (hrun.2.symm.trans ((checkFile_inStep_iff hm hc).2.mp h).2)⟩

end Assay.Check
