import Assay.Proofs.LockStep

/-! # Names that are known

In a walk that is in step, a use is of unknown scope only if the name has no symbol there: because
it stands in parentheses and only gets a hint, or because a class around it spells it with its own
name.
-/

namespace Assay.Check

open Source

/-- A name is of unknown scope exactly where it is no symbol. -/
theorem classify_unknown_iff (site : Site) (name : String) :
    site.classify name = .unknown ↔ name ∉ namesOf site.current.frame := by
  have hglobal : site.classifyGlobal name ≠ .unknown := by
    unfold Site.classifyGlobal
    grind
  have hlookup : site.current.lookup? name = none ↔ name ∉ namesOf site.current.frame := by
    simp [Scope.lookup?, namesOf]
  rw [← hlookup]
  unfold Site.classify
  cases site.current.lookup? name with
  | none => simp
  | some symbol => grind

/-- Why a use may be of unknown scope: its name may be missing, or has a symbol in some scope only
in the spelling of a class. -/
def Explained (loose : String × Range → Prop) (top : Scope) (u : SymbolUse) : Prop :=
  u.scope = .unknown → loose (u.name, u.range) ∨ ∃ p ∈ owned none top,
    u.name ∉ namesOf p.2.frame ∧ mangle p.1 u.name ∈ namesOf p.2.frame

theorem explained_of_allInStep {loose : String × Range → Prop} {top : Scope} :
    (steps : List Step) → ∀ (site : Site) {owner w},
    Step.AllFit loose owner (namesOf site.current.frame) site.current.children steps →
    Numbered site.current.children → (owner, site.current) ∈ owned none top →
    Walk.AllInStep site steps w → (∀ u ∈ w.recorded, Explained loose top u) →
    ∀ u ∈ (Walk.play site steps w).recorded, Explained loose top u
  | [], _, _, _, _, _, _, _, hw => hw
  | .mention name range isDefinition scope :: rest, site, owner, w, hfit, hnumbered, howned, hstep,
      hw => by
      refine explained_of_allInStep rest site hfit.2 hnumbered howned hstep.2 ?_
      rw [Walk.playStep, Walk.record, List.forall_mem_cons]
      refine ⟨fun hscope => ?_, hw⟩
      obtain ⟨hknown, hfits⟩ := hfit.1
      cases scope with
      | some scope => exact absurd (congrArg some hscope) hknown
      | none =>
          exact (hfits rfl).imp_right fun hmem =>
            ⟨_, howned, (classify_unknown_iff site name).mp hscope, hmem⟩
  | .into none _ _ _ :: _, _, _, _, _, _, _, hstep, _ => by
      obtain ⟨⟨⟨s, _, hs⟩, _⟩, _⟩ := hstep
      cases hs
  | .into (some id) name line inside :: rest, site, owner, w, hfit, hnumbered, howned, hstep,
      hw => by
      obtain ⟨⟨⟨s, hs, hid⟩, hinside⟩, hrest⟩ := hstep
      refine explained_of_allInStep rest site hfit.2 hnumbered howned hrest ?_
      obtain ⟨t, ht, htid, -, -, htfit, -, htnumbered⟩ := hfit.1
      cases hid
      obtain rfl : s = t := eq_of_id_eq hnumbered (Walk.chosen?_free hs).1 ht htid.symm
      rw [Walk.enter_some hs] at hinside
      rw [Walk.playStep, Walk.enter_some hs]
      exact explained_of_allInStep inside { site with inner := s :: site.inner } htfit
        htnumbered (mem_owned_of_child top howned ht) hinside hw

/-! ## Checked files -/

/-- It is not so that no use in a checked file is of unknown scope: a name in parentheses that only
gets a hint has no symbol. -/
theorem checkFile_unknown_hinted :
    ¬∀ (file source : String) (m : Module) (c : CheckResults),
      (parseFile file source).tree = some m → (checkFile (parseFile file source)).value = some c →
      asksFor m "annotations" = false → ∀ u ∈ c.uses, u.scope ≠ .unknown := by
  intro h
  have hrun : ((parseFile "m.py" "(x): int\n").tree.any fun m =>
      (checkFile (parseFile "m.py" "(x): int\n")).value.any fun c =>
        !asksFor m "annotations" && c.uses.any fun u => u.scope = .unknown) = true := by
    decide +kernel
  obtain ⟨m, hm, hrun⟩ := (Option.any_eq_true _ _).mp hrun
  obtain ⟨c, hc, hrun⟩ := (Option.any_eq_true _ _).mp hrun
  rw [Bool.and_eq_true, Bool.not_eq_true', List.any_eq_true] at hrun
  obtain ⟨hfeature, u, hu, hscope⟩ := hrun
  exact h "m.py" "(x): int\n" m c hm hc hfeature u hu (of_decide_eq_true hscope)

/-- In a checked file whose hints are evaluated, and whose constructs of one name and one line come
in the order in which their scopes were made, a use is of unknown scope only if its name stands in
parentheses and only gets a hint, or has a symbol in some scope only in the spelling of a class. -/
theorem checkFile_unknown {file source : String} {m : Module} {c : CheckResults}
    (hm : (parseFile file source).tree = some m)
    (hc : (checkFile (parseFile file source)).value = some c)
    (hfeature : asksFor m "annotations" = false)
    (horder : Step.inOrder (Step.ofModule file true m)) :
    ∀ u ∈ c.uses, u.scope = .unknown →
      (∃ n ∈ m.nodes, ∃ span, hintedOnly? n = some (u.name, span) ∧ u.range = rangeOf file span) ∨
      ∃ p ∈ owned none c.scopes,
        u.name ∉ namesOf p.2.frame ∧ mangle p.1 u.name ∈ namesOf p.2.frame := by
  obtain ⟨htop, huses⟩ := ofModule_of_checkFile hm hc
  have hhints : hintsEvaluated m = true := by rw [hintsEvaluated, hfeature, Bool.not_false]
  obtain ⟨hkind, hfit, hnodup, htraced⟩ := fitting_ofModule htop file
    (fun p => ∃ n ∈ m.nodes, ∃ span, hintedOnly? n = some (p.1, span) ∧
      p.2 = rangeOf file span)
    (fun h => absurd (hhints.symm.trans h) (by simp))
    fun n hn p hp => ⟨n, hn, p.2, Option.mem_def.mp hp, rfl⟩
  rw [hhints] at hfit hnodup htraced
  have hstep := (allInStep_of_inOrder _ { file, top := c.scopes } {} [] hfit.fit hfit.belong
    hfit.numbered (by simp) hnodup (by simp) (htraced rfl) horder).1
  have howned : (none, c.scopes) ∈ owned none c.scopes := by
    have := mem_owned_self none c.scopes
    rwa [ownerWithin, if_neg (by simp [hkind])] at this
  intro u hu
  rw [huses, usesOf_eq_play true, List.mem_reverse] at hu
  exact explained_of_allInStep _ { file, top := c.scopes } hfit.fit hfit.numbered howned
    hstep (by simp) u hu

/-- In this class both a name that only gets a hint and a private name are of unknown scope. -/
theorem checkFile_unknown_private : ∃ m c,
    (parseFile "m.py" "class C:\n    __a = 1\n    (x): int\n").tree = some m ∧
    (checkFile (parseFile "m.py" "class C:\n    __a = 1\n    (x): int\n")).value = some c ∧
    asksFor m "annotations" = false ∧ Step.inOrder (Step.ofModule "m.py" true m) ∧
    c.uses.countP (·.scope = .unknown) = 2 ∧
    ∀ u ∈ c.uses, u.scope = .unknown →
      (∃ n ∈ m.nodes, ∃ span,
        hintedOnly? n = some (u.name, span) ∧ u.range = rangeOf "m.py" span) ∨
      ∃ p ∈ owned none c.scopes,
        u.name ∉ namesOf p.2.frame ∧ mangle p.1 u.name ∈ namesOf p.2.frame := by
  have hrun : ((parseFile "m.py" "class C:\n    __a = 1\n    (x): int\n").tree.any fun m =>
      (checkFile (parseFile "m.py" "class C:\n    __a = 1\n    (x): int\n")).value.any fun c =>
        !asksFor m "annotations" && (Step.inOrder (Step.ofModule "m.py" true m) &&
          c.uses.countP (·.scope = .unknown) == 2)) = true := by
    decide +kernel
  obtain ⟨m, hm, hrun⟩ := (Option.any_eq_true _ _).mp hrun
  obtain ⟨c, hc, hrun⟩ := (Option.any_eq_true _ _).mp hrun
  rw [Bool.and_eq_true, Bool.not_eq_true', Bool.and_eq_true, beq_iff_eq] at hrun
  obtain ⟨hfeature, horder, hcount⟩ := hrun
  exact ⟨m, c, hm, hc, hfeature, horder, hcount, checkFile_unknown hm hc hfeature horder⟩

end Assay.Check
