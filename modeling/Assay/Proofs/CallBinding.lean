import Assay.Proofs.Registry

/-! # Calls that bind

What a registry asks of the parameters of a function is that a call with one context binds: the
context goes to the first parameter, and nothing else is missing. What it asks of the annotations is
that they do not exclude the context, and only if all of them stand for something.
-/

namespace Assay.Plugin

open Check Source

/-! ## Signatures -/

/-- Where parameters of a role stand among the others. -/
def rank : ParameterRole → Nat
  | .positionalOnly => 0
  | .positional => 1
  | .variadic => 2
  | .keywordOnly => 3
  | .variadicKeyword => 4

/-- Parameters as a function can have them: they are ordered by their roles, and behind a default
no positional one is without. That their names differ, and that at most one takes the rest, does not
matter here. -/
structure IsSignature (ps : List Parameter) : Prop where
  ordered : ps.Pairwise fun p q => rank p.role ≤ rank q.role
  defaults : ps.Pairwise fun p q =>
    p.isPositional = true → q.isPositional = true → p.isOptional = true → q.isOptional = true

/-- Whether a call fails without an argument for a parameter. -/
def Parameter.isRequired (p : Parameter) : Bool :=
  (p.isPositional || p.role = .keywordOnly) && !p.isOptional

theorem Parameter.isPositional_iff (p : Parameter) : p.isPositional = true ↔ rank p.role ≤ 1 := by
  unfold isPositional
  cases p.role <;> decide

variable {p : Parameter} {ps rest : List Parameter}

namespace IsSignature

theorem rank_le (h : IsSignature (p :: rest)) {q : Parameter} (hq : q ∈ rest) :
    rank p.role ≤ rank q.role :=
  (List.pairwise_cons.mp h.ordered).1 q hq

/-- Behind a parameter that is not positional there is none that is. -/
theorem not_positional (h : IsSignature (p :: rest)) (hp : p.isPositional = false) :
    ∀ q ∈ p :: rest, q.isPositional = false := by
  refine List.forall_mem_cons.mpr ⟨hp, fun q hq => ?_⟩
  have hle := h.rank_le hq
  rw [← Bool.not_eq_true, Parameter.isPositional_iff] at hp ⊢
  omega

end IsSignature

/-! ## Binding -/

section

variable {α : Type}

/-- The names that are lacking say which parameters lack an argument. -/
theorem lacking_eq_nil_iff {isNamed : Bool} {bound : List (Parameter × Supplied α)} :
    lacking isNamed bound = [] ↔ ∀ e ∈ bound, e.2 = .missing → e.1.isPositional = isNamed := by
  rw [lacking, List.filterMap_eq_nil_iff]
  refine forall_congr' fun e => forall_congr' fun _ => ?_
  obtain ⟨p, _ | _ | _ | _⟩ := e <;> simp

/-- A call binds exactly if no argument is left over and no parameter lacks one. -/
theorem bindArguments_eq_ok_iff {as : List α} {bound : List (Parameter × Supplied α)} :
    bindArguments ps as = .ok bound ↔ supply ps as = (bound, []) ∧ ∀ e ∈ bound, e.2 ≠ .missing := by
  have hlacking : ∀ found : List (Parameter × Supplied α),
      lacking false found = [] ∧ lacking true found = [] ↔ ∀ e ∈ found, e.2 ≠ .missing := by
    intro found
    rw [lacking_eq_nil_iff, lacking_eq_nil_iff]
    refine ⟨fun ⟨hfalse, htrue⟩ e he hmissing => ?_, fun h => ?_⟩
    · exact Bool.false_ne_true ((hfalse e he hmissing).symm.trans (htrue e he hmissing))
    · exact ⟨fun e he hmissing => absurd hmissing (h e he), fun e he hmissing =>
        absurd hmissing (h e he)⟩
  unfold bindArguments
  cases hsupply : supply ps as with
  | mk found left =>
      have hfound := hlacking found
      cases left with
      | cons a left => simp
      | nil =>
          simp only [List.isEmpty_nil, Bool.not_true, Bool.false_eq_true, if_false, Prod.mk.injEq,
            and_true]
          split
          next hfalse htrue =>
            have hnone := hfound.mp ⟨hfalse, htrue⟩
            refine ⟨fun h => ?_, fun h => congrArg _ h.1⟩
            cases h
            exact ⟨rfl, hnone⟩
          next hfalse htrue =>
            refine iff_of_false nofun ?_
            rintro ⟨rfl, hnone⟩
            exact htrue (hfound.mpr hnone).2
          next hfalse =>
            refine iff_of_false nofun ?_
            rintro ⟨rfl, hnone⟩
            exact hfalse (hfound.mpr hnone).1 (hfound.mpr hnone).2

/-- What the first parameter takes, and whether the others bind what it leaves, decides. -/
theorem bindArguments_cons_eq_ok_iff {as : List α} {bound : List (Parameter × Supplied α)} :
    bindArguments (p :: ps) as = .ok bound ↔ (p.take as).1 ≠ .missing ∧
      ∃ others, bindArguments ps (p.take as).2 = .ok others ∧ bound = (p, (p.take as).1) :: others := by
  simp only [bindArguments_eq_ok_iff, supply]
  constructor
  · rintro ⟨hsupply, hbound⟩
    obtain ⟨rfl, hleft⟩ := Prod.ext_iff.mp hsupply
    obtain ⟨hfirst, hothers⟩ := List.forall_mem_cons.mp hbound
    exact ⟨hfirst, _, ⟨Prod.ext rfl hleft, hothers⟩, rfl⟩
  · rintro ⟨hfirst, others, ⟨hsupply, hothers⟩, rfl⟩
    rw [hsupply]
    exact ⟨rfl, List.forall_mem_cons.mpr ⟨hfirst, hothers⟩⟩

/-- If the first parameter takes all there is, the others must bind nothing. -/
theorem bindArguments_cons_of_taken {as : List α} {s : Supplied α} (htake : p.take as = (s, []))
    (hs : s ≠ .missing) (bound : List (Parameter × Supplied α)) :
    bindArguments (p :: ps) as = .ok bound ↔
      ∃ others, bindArguments ps [] = .ok others ∧ bound = (p, s) :: others := by
  rw [bindArguments_cons_eq_ok_iff, htake]
  exact and_iff_right hs

theorem Parameter.take_positional (hp : p.isPositional = true) (a : α) (as : List α) :
    p.take (a :: as) = (.argument a, as) := by
  unfold isPositional at hp
  unfold take
  cases hrole : p.role <;> simp_all

theorem Parameter.take_variadic (hp : p.role = .variadic) (as : List α) :
    p.take as = (.remaining as, []) := by
  simp only [take, hp]

/-- Without arguments only a parameter that needs one lacks it. -/
theorem Parameter.take_nil (p : Parameter) :
    p.isRequired = true ∧ p.take ([] : List α) = (.missing, []) ∨
      p.isRequired = false ∧ ∃ s, p.take ([] : List α) = (s, []) ∧ s ≠ .missing ∧
        ∀ a, s ≠ .argument a := by
  unfold isRequired isPositional take
  cases p.role <;> cases p.isOptional <;> simp

/-- Where an argument goes to a parameter with a name only, nothing is taken. -/
theorem Parameter.take_other (hp : 2 < rank p.role) (as : List α) : (p.take as).2 = as := by
  unfold take
  cases hrole : p.role <;> simp_all [rank]

theorem bindArguments_nil (ps : List Parameter) :
    (∃ q ∈ ps, q.isRequired = true) ∧ (∀ bound, bindArguments ps ([] : List α) ≠ .ok bound) ∨
      (∀ q ∈ ps, q.isRequired = false) ∧ ∃ bound, bindArguments ps ([] : List α) = .ok bound ∧
        ∀ q a, (q, Supplied.argument a) ∉ bound := by
  induction ps with
  | nil => exact .inr ⟨List.forall_mem_nil _, [], rfl, fun _ _ => List.not_mem_nil⟩
  | cons p ps ih =>
      rcases p.take_nil (α := α) with ⟨hrequired, htake⟩ | ⟨hfree, s, htake, hmissing, hs⟩
      · refine .inl ⟨⟨p, List.mem_cons_self, hrequired⟩, fun bound hbound => ?_⟩
        exact (bindArguments_cons_eq_ok_iff.mp hbound).1 (by rw [htake])
      · rcases ih with ⟨⟨q, hq, hrequired⟩, hfails⟩ | ⟨hall, bound, hbound, hnone⟩
        · refine .inl ⟨⟨q, List.mem_cons_of_mem p hq, hrequired⟩, fun bound hbound => ?_⟩
          obtain ⟨others, hothers, -⟩ := (bindArguments_cons_of_taken htake hmissing _).mp hbound
          exact hfails others hothers
        · refine .inr ⟨List.forall_mem_cons.mpr ⟨hfree, hall⟩, (p, s) :: bound, ?_, ?_⟩
          · exact (bindArguments_cons_of_taken htake hmissing _).mpr ⟨bound, hbound, rfl⟩
          · intro q a hmem
            rcases List.mem_cons.mp hmem with heq | hmem
            · exact hs a (Prod.ext_iff.mp heq).2.symm
            · exact hnone q a hmem

/-- An argument that no parameter takes without its name is left over. -/
theorem bindArguments_of_named (hps : ∀ q ∈ ps, 2 < rank q.role) (a : α)
    (bound : List (Parameter × Supplied α)) : bindArguments ps [a] ≠ .ok bound := by
  induction ps generalizing bound with
  | nil => exact nofun
  | cons p ps ih =>
      rw [List.forall_mem_cons] at hps
      intro hbound
      obtain ⟨-, others, hothers, -⟩ := bindArguments_cons_eq_ok_iff.mp hbound
      rw [Parameter.take_other hps.1] at hothers
      exact ih hps.2 others hothers

end

/-! ## Slots -/

section

variable (hsignature : IsSignature (p :: rest))

theorem slotFor_of_free (hp : p.isPositional = true) (hfree : ∀ q ∈ rest, q.isRequired = false) :
    Function.slotFor (p :: rest) = some (some p) := by
  have hpositional : (rest.filter (·.isPositional)).filter (fun q => !q.isOptional) = [] := by
    refine List.filter_eq_nil_iff.mpr fun q hq => ?_
    obtain ⟨hq, hqp⟩ := List.mem_filter.mp hq
    simpa [Parameter.isRequired, hqp] using hfree q hq
  have hnamed : ((p :: rest).any fun q => q.role = .keywordOnly && !q.isOptional) = false := by
    refine List.any_eq_false.mpr (List.forall_mem_cons.mpr ⟨?_, fun q hq => ?_⟩)
    · have hrole : p.role ≠ .keywordOnly := by
        intro hrole
        simp [Parameter.isPositional, hrole] at hp
      simp [hrole]
    · have := hfree q hq
      simp_all [Parameter.isRequired]
  unfold Function.slotFor
  simp only [hnamed, List.filter_cons, hp, if_true]
  cases hoptional : p.isOptional <;> simp [hpositional]

include hsignature

theorem slotFor_of_required (hp : p.isPositional = true) {q : Parameter} (hq : q ∈ rest)
    (hrequired : q.isRequired = true) : Function.slotFor (p :: rest) = none := by
  unfold Function.slotFor
  simp only [Parameter.isRequired, Bool.and_eq_true, Bool.or_eq_true, Bool.not_eq_true'] at hrequired
  obtain ⟨hqp | hrole, hqo⟩ := hrequired
  · -- a positional parameter behind the first one needs an argument, and so does the first one
    have hpo : p.isOptional = false := by
      by_contra hpo
      have := (List.pairwise_cons.mp hsignature.defaults).1 q hq hp hqp (by simpa using hpo)
      simp [hqo] at this
    have hmem : q ∈ (rest.filter (·.isPositional)).filter (fun r => !r.isOptional) :=
      List.mem_filter.mpr ⟨List.mem_filter.mpr ⟨hq, hqp⟩, by simp [hqo]⟩
    have hlength := List.length_pos_of_mem hmem
    refine if_pos ?_
    simpa [List.filter_cons, hp, hpo] using hlength
  · have hnamed : ((p :: rest).any fun r => r.role = .keywordOnly && !r.isOptional) = true :=
      List.any_eq_true.mpr ⟨q, List.mem_cons_of_mem p hq, by simp_all⟩
    simp [hnamed]

end

/-- Without positional parameters a context can only go to the rest. -/
theorem slotFor_of_none_positional (hnone : ∀ q ∈ ps, q.isPositional = false) :
    Function.slotFor ps =
      if ∃ q ∈ ps, q.isRequired = true then none
      else if ∃ q ∈ ps, q.role = .variadic then some none else none := by
  have hpositional : ps.filter (·.isPositional) = [] :=
    List.filter_eq_nil_iff.mpr fun q hq => by simp [hnone q hq]
  have hrequired : (ps.any fun q => q.role = .keywordOnly && !q.isOptional) = true ↔
      ∃ q ∈ ps, q.isRequired = true := by
    rw [List.any_eq_true]
    refine exists_congr fun q => and_congr_right fun hq => ?_
    rw [Parameter.isRequired, hnone q hq, Bool.false_or]
  have hvariadic : (ps.any fun q => q.role = .variadic) = true ↔ ∃ q ∈ ps, q.role = .variadic := by
    simp
  unfold Function.slotFor
  simp only [hpositional, hrequired, hvariadic]
  rfl

/-- The slot for a context is the parameter that a call with one argument binds it to. -/
theorem slotFor_binds {α : Type} (h : IsSignature ps) (a : α) :
    match Function.slotFor ps with
    | some (some p) => ∃ bound, bindArguments ps [a] = .ok bound ∧
        ∀ q, (q, Supplied.argument a) ∈ bound ↔ q = p
    | some none => ∃ bound, bindArguments ps [a] = .ok bound ∧
        ∀ q, (q, Supplied.argument a) ∉ bound
    | none => ∀ bound, bindArguments ps [a] ≠ .ok bound := by
  cases ps with
  | nil => exact nofun
  | cons p rest =>
      have hnil := bindArguments_nil (α := α) rest
      cases hp : p.isPositional with
      | true =>
          have hcons : ∀ bound, bindArguments (p :: rest) [a] = .ok bound ↔
              ∃ others, bindArguments rest [] = .ok others ∧ bound = (p, .argument a) :: others :=
            bindArguments_cons_of_taken (p.take_positional hp a []) nofun
          rcases hnil with ⟨⟨q, hq, hrequired⟩, hfails⟩ | ⟨hfree, bound, hbound, hnone⟩
          · rw [slotFor_of_required h hp hq hrequired]
            intro bound hbound
            obtain ⟨others, hothers, -⟩ := (hcons bound).mp hbound
            exact hfails others hothers
          · rw [slotFor_of_free hp hfree]
            refine ⟨(p, .argument a) :: bound, (hcons _).mpr ⟨bound, hbound, rfl⟩, fun q => ?_⟩
            simp [hnone q a]
      | false =>
          have hall := h.not_positional hp
          rw [slotFor_of_none_positional hall]
          by_cases hvariadic : p.role = .variadic
          · have hcons : ∀ bound, bindArguments (p :: rest) [a] = .ok bound ↔
                ∃ others, bindArguments rest [] = .ok others ∧ bound = (p, .remaining [a]) :: others :=
              bindArguments_cons_of_taken (Parameter.take_variadic hvariadic [a]) nofun
            rcases hnil with ⟨⟨q, hq, hrequired⟩, hfails⟩ | ⟨hfree, bound, hbound, hnone⟩
            · rw [if_pos ⟨q, List.mem_cons_of_mem p hq, hrequired⟩]
              intro bound hbound
              obtain ⟨others, hothers, -⟩ := (hcons bound).mp hbound
              exact hfails others hothers
            · have hrest : ¬ ∃ q ∈ p :: rest, q.isRequired = true := by
                rintro ⟨q, hq, hrequired⟩
                rcases List.mem_cons.mp hq with rfl | hq
                · simp [Parameter.isRequired, hp, hvariadic] at hrequired
                · simp [hfree q hq] at hrequired
              rw [if_neg hrest, if_pos ⟨p, List.mem_cons_self, hvariadic⟩]
              refine ⟨(p, .remaining [a]) :: bound, (hcons _).mpr ⟨bound, hbound, rfl⟩, fun q => ?_⟩
              simp [hnone q a]
          · have hnamed : ∀ q ∈ p :: rest, 2 < rank q.role := by
              have hrank : 2 < rank p.role := by
                unfold Parameter.isPositional at hp
                cases hrole : p.role <;> simp_all [rank]
              exact List.forall_mem_cons.mpr
                ⟨hrank, fun q hq => Nat.lt_of_lt_of_le hrank (h.rank_le hq)⟩
            have hnone : ¬ ∃ q ∈ p :: rest, q.role = .variadic := by
              rintro ⟨q, hq, hrole⟩
              have hrank := hnamed q hq
              simp [hrole, rank] at hrank
            rw [if_neg hnone, ite_self]
            exact bindArguments_of_named hnamed a

/-! ## Annotations -/

namespace Annotation

/-- Named annotations stand for something together exactly if each of them does. -/
theorem resolveAll_isOk_iff (annotations : List (String × Annotation)) :
    (∃ hints, resolveAll annotations = .ok hints) ↔
      ∀ a ∈ annotations, ∃ hint, a.2.resolve = .ok hint := by
  induction annotations with
  | nil => exact iff_of_true ⟨[], rfl⟩ (List.forall_mem_nil _)
  | cons first rest ih =>
      rw [List.forall_mem_cons, ← ih, resolveAll, Attempt.exists_bind_eq_ok_iff]
      refine ⟨?_, ?_⟩
      · rintro ⟨hint, hhint, hmore⟩
        obtain ⟨others, hothers, -⟩ := Attempt.exists_bind_eq_ok_iff.mp hmore
        exact ⟨⟨hint, hhint⟩, others, hothers⟩
      · rintro ⟨⟨hint, hhint⟩, others, hothers⟩
        exact ⟨hint, hhint, Attempt.exists_bind_eq_ok_iff.mpr ⟨others, hothers, _, rfl⟩⟩

/-- Each name keeps what its annotation stands for. -/
theorem lookup_of_resolveAll {annotations hints : List (String × Annotation)}
    (h : resolveAll annotations = .ok hints) (name : String) :
    hints.lookup name = (annotations.lookup name).bind fun a => a.resolve.toOption := by
  induction annotations generalizing hints with
  | nil =>
      cases h
      rfl
  | cons first rest ih =>
      obtain ⟨hint, hhint, hmore⟩ := Attempt.of_bind_eq_ok h
      obtain ⟨others, hothers, hall⟩ := Attempt.of_bind_eq_ok hmore
      cases hall
      rw [List.lookup_cons, List.lookup_cons, ih hothers]
      split
      next =>
        rw [Option.bind_some, hhint]
        rfl
      next => rfl

end Annotation

namespace Function

/-- The contexts of a host belong to the class that the annotation of a parameter stands for, if it
stands for one. Annotations do not count if it cannot be worked out what they stand for, but no other
than an ordinary failure may be the reason. -/
structure Suits (f : Function) (kind : HostKind) (p : Parameter) : Prop where
  settled : ∀ failure, f.hints = .error failure → failure.isExit = false
  belongs : ∀ hints, f.hints = .ok hints → ∀ c, hints.lookup p.name = some (.ofClass c) →
    c.holds kind = .ok true

variable {f : Function}

/-- What an annotation stands for does not count if it cannot be worked out. -/
theorem suits_iff_of_error {failure : Failure} (h : f.hints = .error failure) (kind : HostKind)
    (p : Parameter) : f.Suits kind p ↔ failure.isExit = false := by
  refine ⟨fun hsuits => hsuits.settled failure h, fun hordinary => ⟨?_, ?_⟩⟩
  · intro other hother
    cases h.symm.trans hother
    exact hordinary
  · intro hints hhints
    cases h.symm.trans hhints

theorem suits_iff_of_ok {hints : List (String × Annotation)} (h : f.hints = .ok hints)
    (kind : HostKind) (p : Parameter) :
    f.Suits kind p ↔ ∀ c, hints.lookup p.name = some (.ofClass c) → c.holds kind = .ok true := by
  refine ⟨fun hsuits => hsuits.belongs hints h, fun hbelongs => ⟨?_, ?_⟩⟩
  · intro failure hfails
    cases h.symm.trans hfails
  · intro others hothers
    cases h.symm.trans hothers
    exact hbelongs

/-- A parameter takes the contexts of a host exactly if its annotation suits them. -/
theorem takes_iff (kind : HostKind) (p : Parameter) :
    f.takes kind p = .ok true ↔ f.Suits kind p := by
  unfold takes
  cases hhints : f.hints with
  | error failure =>
      rw [suits_iff_of_error hhints]
      cases hexit : failure.isExit <;> simp [hexit]
  | ok hints =>
      rw [suits_iff_of_ok hhints]
      cases hhint : hints.lookup p.name with
      | none => simp [hhint]
      | some hint => cases hint <;> simp [hhint]

/-- A function is accepted exactly if a call with one context binds to the parameters that
inspection finds, and not to one that excludes it. -/
theorem accepts_iff_binds {ps : List Parameter} (hps : f.signature = .ok ps) (h : IsSignature ps)
    (kind : HostKind) (c : Context) :
    f.accepts kind = .ok true ↔ ∃ bound, bindArguments ps [c] = .ok bound ∧
      ∀ q, (q, Supplied.argument c) ∈ bound → f.Suits kind q := by
  have hslot := slotFor_binds h c
  simp only [accepts, hps]
  cases hfound : slotFor ps with
  | none =>
      rw [hfound] at hslot
      simp [hslot]
  | some slot =>
      cases slot with
      | none =>
          simp only [hfound] at hslot
          obtain ⟨bound, hbound, hnone⟩ := hslot
          exact iff_of_true rfl ⟨bound, hbound, fun q hq => absurd hq (hnone q)⟩
      | some p =>
          simp only [hfound] at hslot
          obtain ⟨bound, hbound, honly⟩ := hslot
          simp only [takes_iff, hbound, Except.ok.injEq, exists_eq_left', honly, forall_eq]

/-- What is accepted can be inspected. -/
theorem signature_of_accepts {kind : HostKind} (h : f.accepts kind = .ok true) :
    ∃ ps, f.signature = .ok ps := by
  cases hps : f.signature with
  | ok ps => exact ⟨ps, rfl⟩
  | error failure =>
      simp only [accepts, hps] at h
      split at h <;> cases h

/-- A call that binds comes to the body of the function. -/
theorem call_eq_body {c : Context} {bound : List (Parameter × Supplied Context)}
    (h : bindArguments f.parameters [c] = .ok bound) : f.call c = f.body c := by
  rw [call, h]
  rfl

end Function

/-! ## Registries -/

namespace Registry

/-- What a registry holds was offered to it and accepted. -/
theorem mem_descriptors_performAll {kind : HostKind} {excluded : List Value} {calls : List Call}
    {d : Descriptor}
    (hd : d ∈ (Call.performAll { kind, excluded } calls).value.2.descriptors) :
    ∃ o ∈ calls.flatMap (Call.offers { kind, excluded }), d = o.descriptor ∧
      o.function.accepts kind = .ok true := by
  obtain ⟨e, he, rfl⟩ := List.mem_map.mp hd
  rw [(Call.performAll_spec { kind, excluded } calls).1] at he
  have hmem := ((mem_putAll he).resolve_left List.not_mem_nil).1
  obtain ⟨o, ho, hdescriptor⟩ := List.mem_map.mp hmem
  obtain ⟨hoffered, haccepted⟩ := List.mem_filter.mp ho
  simp only [Offer.isAccepted, Offer.isFit, Bool.and_eq_true] at haccepted
  refine ⟨o, hoffered, hdescriptor.symm, ?_⟩
  cases haccepts : o.function.accepts kind with
  | error failure => simp [haccepts, Except.toOption] at haccepted
  | ok isAccepted => simpa [haccepts, Except.toOption] using haccepted.1.2

end Registry

/-- A function is admitted for a host exactly if a call with one context binds to the parameters that
inspection finds and the annotation of the parameter that the context goes to suits it. What counts is
what this annotation stands for, and it counts if all of them stand for something. So a call of what a
registry holds comes to the body of the function, if what inspection finds are the parameters of the
function. -/
theorem accepts_one_context :
    (∀ (f : Function) (ps : List Parameter) (kind : HostKind) (c : Context),
      f.signature = .ok ps → IsSignature ps →
      (f.accepts kind = .ok true ↔ ∃ bound, bindArguments ps [c] = .ok bound ∧
        ∀ q, (q, Supplied.argument c) ∈ bound → f.Suits kind q)) ∧
    (∀ annotations,
      ((∃ hints, Annotation.resolveAll annotations = .ok hints) ↔
        ∀ a ∈ annotations, ∃ hint, a.2.resolve = .ok hint) ∧
      ∀ hints, Annotation.resolveAll annotations = .ok hints → ∀ name,
        hints.lookup name = (annotations.lookup name).bind fun a => a.resolve.toOption) ∧
    ∀ (kind : HostKind) (excluded : List Value) (calls : List Registry.Call),
      ∀ d ∈ (Registry.Call.performAll { kind, excluded } calls).value.2.descriptors,
        ∃ o ∈ calls.flatMap (Registry.Call.offers { kind, excluded }), d = o.descriptor ∧
          ∃ ps, o.function.signature = .ok ps ∧ (IsSignature ps →
            (∀ c : Context, ∃ bound, bindArguments ps [c] = .ok bound) ∧
              (o.function.parameters = ps → ∀ c, d.call c = o.function.body c)) := by
  have hresolves := Annotation.resolveAll_isOk_iff
  refine ⟨fun f ps kind c hps h => Function.accepts_iff_binds hps h kind c,
    fun annotations => ⟨hresolves annotations,
      fun hints h name => Annotation.lookup_of_resolveAll h name⟩, ?_⟩
  intro kind excluded calls d hd
  obtain ⟨o, ho, rfl, haccepts⟩ := Registry.mem_descriptors_performAll hd
  obtain ⟨ps, hps⟩ := Function.signature_of_accepts haccepts
  refine ⟨o, ho, rfl, ps, hps, fun h => ?_⟩
  have hbinds : ∀ c : Context, ∃ bound, bindArguments ps [c] = .ok bound := fun c => by
    obtain ⟨bound, hbound, -⟩ := (Function.accepts_iff_binds hps h kind c).mp haccepts
    exact ⟨bound, hbound⟩
  refine ⟨hbinds, fun hown c => ?_⟩
  obtain ⟨bound, hbound⟩ := hbinds c
  exact Function.call_eq_body (hown ▸ hbound)

/-- A function for command lines that takes more than a context, all of it with defaults. -/
def lenient : Function :=
  { name := "check", home := "plugin"
    parameters := [{ name := "context", role := .positionalOnly },
      { name := "limit", isOptional := true }, { name := "more", role := .variadic },
      { name := "strict", role := .keywordOnly, isOptional := true },
      { name := "options", role := .variadicKeyword }]
    hints := Annotation.resolveAll
      [("context", .constant (.text "CliContext")), ("limit", .ofClass (.named "int"))]
    marker := .ok (some { kind := .cli, name := .text "Naming" })
    body := fun _ => .ok (.many [] none) }

theorem accepts_one_context_lenient :
    ∃ ps, lenient.signature = .ok ps ∧ IsSignature ps ∧
      (∀ c : Context, ∃ bound, bindArguments ps [c] = .ok bound) ∧
      lenient.accepts .editor = .ok false ∧
      ∀ d ∈ (Registry.Call.performAll {} [.register (.function lenient) none]).value.2.descriptors,
        ∀ c, d.call c = .ok (.many [] none) := by
  have hsignature : IsSignature lenient.parameters := ⟨by decide, by decide⟩
  refine ⟨_, rfl, hsignature, fun c => ?_, by decide +kernel, fun d hd c => ?_⟩
  · obtain ⟨bound, hbound, -⟩ := (accepts_one_context.1 lenient _ .cli c rfl hsignature).mp
      (by decide +kernel)
    exact ⟨bound, hbound⟩
  · obtain ⟨o, ho, rfl, ps, hps, hcalls⟩ := accepts_one_context.2.2 .cli [] _ d hd
    rw [List.flatMap_singleton, Registry.Call.offers_register] at ho
    cases List.mem_singleton.mp ho
    cases hps
    exact (hcalls hsignature).2 rfl c

/-- A function without parameters that stands for one with a context. -/
def standIn : Function :=
  { name := "check", home := "plugin", parameters := []
    signature := .ok [{ name := "context" }]
    body := fun _ => .ok (.many [] none) }

/-- A function for editors by the annotation of its context, with another annotation that stands for
nothing. -/
def halfResolved : Function :=
  { name := "check", home := "plugin"
    parameters := [{ name := "context" }, { name := "limit", isOptional := true }]
    hints := Annotation.resolveAll
      [("context", .ofClass (.named "EditorContext")), ("limit", .constant (.text "Missing"))]
    body := fun _ => .ok (.many [] none) }

/-- One annotation that stands for nothing is enough for the others not to count. And what inspection
finds need not be the parameters of the function: it is admitted then, and the call fails before the
function does anything. -/
theorem accepts_halfResolved_standIn :
    (¬ ∀ (f : Function) (annotations : List (String × Annotation)) (ps : List Parameter)
        (kind : HostKind) (c : Context),
      f.hints = Annotation.resolveAll annotations → f.signature = .ok ps → IsSignature ps →
      (f.accepts kind = .ok true ↔ ∃ bound, bindArguments ps [c] = .ok bound ∧
        ∀ q, (q, Supplied.argument c) ∈ bound →
          ∀ a, annotations.lookup q.name = some a → ∀ c : Class, a.resolve = .ok (.ofClass c) →
            c.holds kind = .ok true)) ∧
    standIn.accepts .cli = .ok true ∧
      Attempt.failure? (standIn.call { kind := .cli, file := "a.py" }) =
        some (.type "check() takes 0 positional arguments but 1 was given") := by
  refine ⟨fun hall => ?_, by decide +kernel, by decide +kernel⟩
  let c : Context := { kind := .cli, file := "a.py" }
  obtain ⟨bound, hbound, hsuits⟩ :=
    (hall halfResolved _ _ .cli c rfl rfl ⟨by decide, by decide⟩).mp (by decide +kernel)
  cases hbound
  have hclass : (Class.named "EditorContext").holds .cli = .ok true :=
    hsuits _ List.mem_cons_self (.ofClass (.named "EditorContext")) rfl _ rfl
  exact absurd hclass (by decide)

end Assay.Plugin
