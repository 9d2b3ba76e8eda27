import Assay.Plugin.Registry
import Assay.Proofs.NamedEntries
import Mathlib.Data.List.Forall2

/-! # Accounts of a registry

Whatever calls fill a registry, what it holds is decided by the analyzers it came to: those that it
accepts are put under their names one after the other. So the last accepted one of a name stays, and
the accepted ones are as many as the entries and the warnings about replaced ones together, apart
from warnings about analyzers that could not be wrapped afterwards.
-/

namespace Assay.Plugin

open Check

/-! ## Offers -/

/-- A marked function that is offered to a registry. -/
structure Offer where
  function : Function
  marker : Marker
  source : Option String

namespace Offer

/-- The offer that an object makes if it is marked. -/
def ofObject? (source : Option String) (o : Object) : Option Offer :=
  match o.marker, o.toFunction? with
  | .ok (some marker), some function => some { function, marker, source }
  | _, _ => none

/-- The entry for an offer. -/
def descriptor (o : Offer) : Descriptor := Registry.descriptorOf o.function o.marker o.source

/-- Whether a registry has nothing against an offer: it is for the same kind of host, its name is fit
to be a key and is not excluded, and it takes a context. What the registry holds does not matter. -/
def isFit (r : Registry) (o : Offer) : Bool :=
  o.marker.kind = r.kind && o.marker.name.unhashable?.isNone &&
    !(r.excluded.any fun name => name.same o.marker.name) &&
    (o.function.accepts r.kind).toOption.getD false

theorem refusal?_eq_ok_none_iff (r : Registry) (o : Offer) :
    r.refusal? o.function o.marker = .ok none ↔ o.isFit r = true := by
  have hsearch := o.marker.name.unsearchable?_of_unhashable?
  unfold Registry.refusal? isFit Value.requireSearchable Value.requireKey
  by_cases hkind : o.marker.kind = r.kind
  · cases hkey : o.marker.name.unhashable? with
    | none =>
        rw [hsearch hkey]
        cases r.excluded.any (fun name => name.same o.marker.name) <;>
          rcases o.function.accepts r.kind with failure | (_ | _) <;>
          simp [hkind, bind, Except.bind, pure, Except.pure, Except.toOption]
    | some type =>
        cases o.marker.name.unsearchable? <;>
          cases r.excluded.any (fun name => name.same o.marker.name) <;>
          rcases o.function.accepts r.kind with failure | (_ | _) <;>
          simp [hkind, bind, Except.bind, pure, Except.pure]
  · simp [hkind, pure, Except.pure]

/-- Whether the function of an offer can be wrapped. -/
def canWrap (o : Offer) : Bool := (Attempt.failure? o.function.wrapping).isNone

/-- Whether a registry accepts an offer. -/
def isAccepted (r : Registry) (o : Offer) : Bool := o.isFit r && o.canWrap

/-- What a registry fails with at an offer: with looking at it, or with wrapping its function. -/
def failure? (r : Registry) (o : Offer) : Option Failure :=
  match r.refusal? o.function o.marker with
  | .error f => some f
  | .ok (some _) => none
  | .ok none => Attempt.failure? o.function.wrapping

/-- An offer at which a registry fails is not accepted. -/
theorem isAccepted_of_failure? {r : Registry} {o : Offer} {f : Failure}
    (h : o.failure? r = some f) : o.isAccepted r = false := by
  rw [isAccepted, Bool.and_eq_false_iff]
  by_cases hfit : o.isFit r = true
  · rw [failure?, (o.refusal?_eq_ok_none_iff r).mpr hfit] at h
    exact .inr (by simp [canWrap, h])
  · exact .inl (Bool.eq_false_iff.mpr hfit)

/-- What a registry fails with at an object: with looking for its marker, or with the offer that it
makes. -/
def failureAt? (r : Registry) (source : Option String) (o : Object) : Option Failure :=
  match o.marker with
  | .error f => some f
  | .ok _ => (ofObject? source o).bind (failure? r)

/-- What a registry fails with at an object that makes an offer is what it fails with at the offer. -/
theorem failureAt?_of_offer {r : Registry} {source : Option String} {object : Object} {o : Offer}
    (h : ofObject? source object = some o) : failureAt? r source object = o.failure? r := by
  unfold failureAt?
  split
  next hmarker => simp [ofObject?, hmarker] at h
  next => rw [h, Option.bind_some]

end Offer

namespace Registry

/-- The analyzers that a registry accepts among offers, in order. -/
def accepted (r : Registry) (offers : List Offer) : List Descriptor :=
  (offers.filter (Offer.isAccepted r)).map Offer.descriptor

theorem accepted_append (r : Registry) (offers more : List Offer) :
    r.accepted (offers ++ more) = r.accepted offers ++ r.accepted more := by
  simp [accepted]

theorem accepted_cons (r : Registry) (o : Offer) (rest : List Offer) :
    r.accepted (o :: rest) =
      (if o.isAccepted r then [o.descriptor] else []) ++ r.accepted rest := by
  cases ho : o.isAccepted r <;> simp [accepted, ho]

/-- An accepted analyzer is for this kind of host, and its name is not excluded. -/
theorem mem_accepted {r : Registry} {offers : List Offer} {d : Descriptor}
    (hd : d ∈ r.accepted offers) :
    d.kind = r.kind ∧ r.excluded.any (fun name => name.same d.name) = false := by
  obtain ⟨o, ho, rfl⟩ := List.mem_map.mp hd
  have haccepted := (List.mem_filter.mp ho).2
  simp only [Offer.isAccepted, Offer.isFit, Bool.and_eq_true, decide_eq_true_eq,
    Bool.not_eq_true'] at haccepted
  exact ⟨haccepted.1.1.1.1, haccepted.1.1.2⟩

/-- Nothing is accepted of an object at which a registry fails. -/
theorem accepted_of_failureAt? {r : Registry} {source : Option String} {o : Object} {f : Failure}
    (h : Offer.failureAt? r source o = some f) :
    r.accepted (Offer.ofObject? source o).toList = [] := by
  cases hoffer : Offer.ofObject? source o with
  | none => rfl
  | some offer =>
      rw [Offer.failureAt?_of_offer hoffer] at h
      simp [accepted, Offer.isAccepted_of_failure? h]

/-! ## Taking offers -/

/-- The warnings in a log. -/
def warningsOf (log : List LogEntry) : List LogEntry := log.filter fun e => e.level = .warning

theorem warningsOf_append (log more : List LogEntry) :
    warningsOf (log ++ more) = warningsOf log ++ warningsOf more :=
  List.filter_append ..

/-- The warning that an analyzer replaces another. -/
def replacementRecord (d previous : Descriptor) : LogEntry :=
  { level := .warning
    text := "Analyzer " ++ d.name.shown ++ " from " ++ sourceText d.source ++
      " replaces the one registered from " ++ sourceText previous.source }

/-- The warning about an offer that a registry has nothing against, if its name is taken. -/
def warningFor (r : Registry) (o : Offer) : List LogEntry :=
  if o.isFit r then ((r.find? o.marker.name).map (replacementRecord o.descriptor)).toList else []

/-- A registry after an offer. -/
def take (r : Registry) (o : Offer) : Registry :=
  if o.isAccepted r then { r with entries := putByName o.descriptor r.entries } else r

/-- A registry after offers. -/
def takeAll (r : Registry) (offers : List Offer) : Registry :=
  { r with entries := putAll r.entries (r.accepted offers) }

/-- The warnings about offers that come one after the other. -/
def warningsFor (r : Registry) : List Offer → List LogEntry
  | [] => []
  | o :: rest => r.warningFor o ++ warningsFor (r.take o) rest

/-- The offers that are warned about in vain: a registry has nothing against them and their names are
taken, but their functions cannot be wrapped. -/
def unfinished (r : Registry) : List Offer → List Offer
  | [] => []
  | o :: rest => (if o.canWrap || (r.warningFor o).isEmpty then [] else [o]) ++
      unfinished (r.take o) rest

/-- What a registry holds does not matter for what it accepts. -/
theorem accepted_take (r : Registry) (o : Offer) (others : List Offer) :
    (r.take o).accepted others = r.accepted others := by
  unfold take
  split <;> rfl

theorem takeAll_cons (r : Registry) (o : Offer) (rest : List Offer) :
    r.takeAll (o :: rest) = (r.take o).takeAll rest := by
  unfold takeAll
  rw [accepted_take, accepted_cons, take]
  cases o.isAccepted r <;> rfl

theorem takeAll_append (r : Registry) (offers more : List Offer) :
    r.takeAll (offers ++ more) = (r.takeAll offers).takeAll more := by
  induction offers generalizing r with
  | nil => rfl
  | cons o rest ih => rw [List.cons_append, takeAll_cons, ih, takeAll_cons]

theorem warningsFor_append (r : Registry) (offers more : List Offer) :
    r.warningsFor (offers ++ more) =
      r.warningsFor offers ++ (r.takeAll offers).warningsFor more := by
  induction offers generalizing r with
  | nil => rfl
  | cons o rest ih =>
      rw [List.cons_append, warningsFor, warningsFor, ih, takeAll_cons, List.append_assoc]

theorem accepted_takeAll (r : Registry) (offers others : List Offer) :
    (r.takeAll offers).accepted others = r.accepted others := rfl

/-- What a registry holds does not matter for what it has against an offer. -/
theorem isFit_take (r : Registry) (o other : Offer) : other.isFit (r.take o) = other.isFit r := by
  unfold take
  split <;> rfl

/-- Each warning is about one of the offers that the registry has nothing against. -/
theorem mem_warningsFor {r : Registry} {offers : List Offer} {entry : LogEntry}
    (h : entry ∈ r.warningsFor offers) :
    ∃ o ∈ offers, o.isFit r = true ∧ ∃ previous, entry = replacementRecord o.descriptor previous := by
  induction offers generalizing r with
  | nil => exact absurd h List.not_mem_nil
  | cons o rest ih =>
      rcases List.mem_append.mp h with hfirst | hrest
      · rw [warningFor] at hfirst
        split at hfirst
        next hfit =>
          obtain ⟨previous, -, hentry⟩ := Option.map_eq_some_iff.mp (Option.mem_toList.mp hfirst)
          exact ⟨o, List.mem_cons_self, hfit, previous, hentry.symm⟩
        next => exact absurd hfirst List.not_mem_nil
      · obtain ⟨other, hother, hfit, hentry⟩ := ih hrest
        exact ⟨other, List.mem_cons_of_mem o hother, isFit_take r o other ▸ hfit, hentry⟩

theorem canWrap_of_mem_unfinished {r : Registry} {offers : List Offer} {o : Offer}
    (h : o ∈ r.unfinished offers) : o ∈ offers ∧ o.canWrap = false := by
  induction offers generalizing r with
  | nil => exact absurd h List.not_mem_nil
  | cons first rest ih =>
      rcases List.mem_append.mp h with hfirst | hrest
      · split at hfirst
        next => exact absurd hfirst List.not_mem_nil
        next hvain =>
          cases List.mem_singleton.mp hfirst
          simp only [Bool.or_eq_true, not_or, Bool.not_eq_true] at hvain
          exact ⟨List.mem_cons_self, hvain.1⟩
      · exact (ih hrest).imp_left (List.mem_cons_of_mem first)

/-- An offer brings an entry or a warning if it is accepted, and otherwise neither, unless it is
warned about in vain. -/
theorem length_take (r : Registry) (o : Offer) :
    (r.accepted [o]).length + (r.unfinished [o]).length + r.entries.length =
      (r.warningFor o).length + (r.take o).entries.length := by
  -- whether the name is there already decides both the length and the warning
  have hlength := congrArg List.length (keys_putByName o.descriptor r.entries)
  rw [List.length_map, List.length_append, List.length_map] at hlength
  have hfind : r.find? o.marker.name = under o.descriptor.name r.entries := rfl
  unfold take
  cases hfit : o.isFit r with
  | false => simp [accepted, unfinished, warningFor, Offer.isAccepted, hfit]
  | true =>
      cases hwrap : o.canWrap <;> cases hunder : under o.descriptor.name r.entries <;>
        simp [accepted, unfinished, warningFor, Offer.isAccepted, hfit, hwrap, hfind, hunder, hlength,
          Nat.add_comm]

/-- The accepted offers are as many as the new entries and the warnings, but for the warnings in
vain. -/
theorem length_takeAll (r : Registry) (offers : List Offer) :
    (r.accepted offers).length + (r.unfinished offers).length + r.entries.length =
      (r.warningsFor offers).length + (r.takeAll offers).entries.length := by
  induction offers generalizing r with
  | nil => simp [accepted, unfinished, warningsFor, takeAll, putAll]
  | cons o rest ih =>
      have hfirst := length_take r o
      have hrest := ih (r.take o)
      have haccepted : (r.accepted (o :: rest)).length =
          (r.accepted [o]).length + ((r.take o).accepted rest).length := by
        rw [← List.singleton_append, accepted_append, List.length_append, accepted_take]
      simp only [unfinished, List.append_nil] at hfirst
      rw [takeAll_cons, warningsFor, unfinished, haccepted, List.length_append, List.length_append]
      omega

/-! ## Registering -/

/-- What a registry makes of an offer. -/
theorem registerMarked_spec (r : Registry) (o : Offer) :
    (r.registerMarked o.function o.marker o.source).value =
        (match o.failure? r with
          | some f => .error f
          | none => .ok (o.isAccepted r), r.take o) ∧
      warningsOf (r.registerMarked o.function o.marker o.source).log = r.warningFor o := by
  have hfit := o.refusal?_eq_ok_none_iff r
  unfold registerMarked Offer.failure? take warningFor Offer.isAccepted
  cases hrefusal : r.refusal? o.function o.marker with
  | error f =>
      have hunfit : o.isFit r = false := by simpa [hrefusal] using hfit
      simp [hunfit, warningsOf]
  | ok refusal =>
      cases refusal with
      | some refusal =>
          have hunfit : o.isFit r = false := by simpa [hrefusal] using hfit
          simp [hunfit, warningsOf, Logged.note]
      | none =>
          have hfit : o.isFit r = true := hfit.mp hrefusal
          unfold accept Offer.canWrap
          cases r.find? o.marker.name <;> cases o.function.wrapping <;>
            simp [hfit, warningsOf, Logged.note, Attempt.failure?, replacementRecord, Except.map,
              Offer.descriptor, descriptorOf]

/-- What a registry makes of an object. -/
theorem registerIfMarked_spec (r : Registry) (o : Object) (source : Option String) :
    (r.registerIfMarked o source).value =
        (match Offer.failureAt? r source o with
          | some f => .error f
          | none => .ok ((Offer.ofObject? source o).map (Offer.isAccepted r)),
          r.takeAll (Offer.ofObject? source o).toList) ∧
      warningsOf (r.registerIfMarked o source).log =
        r.warningsFor (Offer.ofObject? source o).toList := by
  unfold registerIfMarked Offer.failureAt? Offer.ofObject?
  cases o.marker with
  | error f => exact ⟨rfl, rfl⟩
  | ok marker =>
      cases marker with
      | none => exact ⟨rfl, rfl⟩
      | some m =>
          cases o.toFunction? with
          | none => exact ⟨rfl, rfl⟩
          | some f =>
              obtain ⟨hvalue, hwarnings⟩ :=
                registerMarked_spec r { function := f, marker := m, source }
              simp only [Logged.value_bind, Logged.log_bind, hvalue, Option.toList_some,
                Option.bind_some, Option.map_some]
              refine ⟨?_, ?_⟩
              · rw [takeAll_cons]
                cases Offer.failure? r { function := f, marker := m, source } <;> rfl
              · rw [Logged.log_pure, List.append_nil, hwarnings]
                exact (List.append_nil _).symm

theorem register_spec (r : Registry) (o : Object) (source : Option String) :
    (r.register o source).value.2 = r.takeAll (Offer.ofObject? source o).toList ∧
      warningsOf (r.register o source).log = r.warningsFor (Offer.ofObject? source o).toList ∧
      (∀ isNew, (r.register o source).value.1 = .ok isNew →
        isNew.toNat = (r.accepted (Offer.ofObject? source o).toList).length) ∧
      ∀ f, (r.register o source).value.1 = .error f →
        r.accepted (Offer.ofObject? source o).toList = [] := by
  obtain ⟨hvalue, hwarnings⟩ := registerIfMarked_spec r o source
  unfold register
  simp only [Logged.value_bind, Logged.log_bind, hvalue, warningsOf_append, hwarnings]
  cases hfailure : Offer.failureAt? r source o with
  | some failure =>
      have hnone : r.accepted (Offer.ofObject? source o).toList = [] := accepted_of_failureAt? hfailure
      refine ⟨rfl, List.append_nil _, ?_, fun _ _ => hnone⟩
      intro isNew hnew
      cases hnew
  | none =>
      cases Offer.ofObject? source o with
      | none =>
          refine ⟨rfl, rfl, ?_, fun _ _ => rfl⟩
          intro isNew hnew
          cases hnew
      | some offer =>
          refine ⟨rfl, List.append_nil _, ?_, ?_⟩
          · rintro isNew ⟨⟩
            cases haccepted : offer.isAccepted r <;> simp [accepted, haccepted]
          · intro f hf
            cases hf

/-! ## One after the other -/

/-- Go on after a part of a run, unless it has ended everything. -/
def andThen (first : Logged (Except Failure Nat × Registry))
    (next : Registry → Logged (Except Failure Nat × Registry)) :
    Logged (Except Failure Nat × Registry) := do
  let (outcome, r) ← first
  match outcome with
  | .error failure => return (.error failure, r)
  | .ok count => do
      let (more, r) ← next r
      return (more.map (count + ·), r)

theorem andThen_value (first : Logged (Except Failure Nat × Registry))
    (next : Registry → Logged (Except Failure Nat × Registry)) :
    (andThen first next).value = match first.value.1 with
      | .error failure => (.error failure, first.value.2)
      | .ok count =>
          ((next first.value.2).value.1.map (count + ·), (next first.value.2).value.2) := by
  obtain ⟨⟨outcome, after⟩, log⟩ := first
  cases outcome <;> rfl

theorem andThen_log (first : Logged (Except Failure Nat × Registry))
    (next : Registry → Logged (Except Failure Nat × Registry)) :
    (andThen first next).log = first.log ++ match first.value.1 with
      | .error _ => []
      | .ok _ => (next first.value.2).log := by
  obtain ⟨⟨outcome, after⟩, log⟩ := first
  cases outcome <;> simp [andThen]

/-- A count that nothing is added to stays the same. -/
theorem map_count (outcome : Except Failure Nat) : (outcome.map fun n => n) = outcome := by
  cases outcome <;> rfl

/-- Take one step for each of some things, and add up what the steps count. -/
def each {α : Type} (step : Registry → α → Logged (Except Failure Nat × Registry)) (r : Registry) :
    List α → Logged (Except Failure Nat × Registry)
  | [] => return (.ok 0, r)
  | a :: rest => andThen (step r a) fun r => each step r rest

/-- Register a candidate if it is marked. -/
def registerMember (source : String) (r : Registry) (member : String × Object) :
    Logged (Except Failure Nat × Registry) := do
  let (outcome, r) ← r.registerIfMarked member.2 (some source)
  match outcome with
  | .ok isNew => return (.ok (isNew.getD false).toNat, r)
  | .error failure =>
      if failure.isExit then return (.error failure, r)
      else
        Logged.note .error (s!"Inspecting {member.1} in {source} failed: " ++ failure.text)
        return (.ok 0, r)

theorem registerCandidates_eq_each (source : String) (r : Registry)
    (members : List (String × Object)) :
    registerCandidates source r members = each (registerMember source) r members := by
  have := Logged.lawfulMonad
  induction members generalizing r with
  | nil => rfl
  | cons member rest ih =>
      obtain ⟨name, o⟩ := member
      rw [each, registerCandidates, registerMember]
      simp only [ih, andThen, bind_assoc]
      congr 1
      funext x
      obtain ⟨outcome, after⟩ := x
      cases outcome with
      | ok isNew => simp
      | error failure => cases hexit : failure.isExit <;> simp [map_count, hexit]

/-- What is loaded from a file with a program is the plugin that the program makes. -/
theorem load_of_program {tree : FileTree Program} {p : Path} {program : Program}
    (hresolve : tree.resolve p = .ok p)
    (hends : loadableEndings.any (fun ending => p.toString.endsWith ending) = true)
    (hprogram : tree.program? p = some program) : load tree p = program.pluginAt p := by
  simp only [load, hresolve, hends, hprogram, Attempt.ok_bind, if_true]

/-- Register the analyzers of one plugin. -/
def loadOne (tree : FileTree Program) (r : Registry) (path : Path) :
    Logged (Except Failure Nat × Registry) :=
  match load tree path with
  | .ok m => do
      let file := path.toString
      let (outcome, r) ← r.registerModule m (some file)
      match outcome with
      | .error failure => return (.error failure, r)
      | .ok count =>
          Logged.note .debug s!"Registered {count} analyzer(s) from {file}"
          return (.ok count, r)
  | .error failure =>
      if endsScan failure then return (.error failure, r)
      else do
        let file := path.toString
        Logged.note .error (s!"Could not load analyzers from {file}: " ++ failure.shown)
        Logged.note .debug s!"Load failure for {file}" (some failure)
        return (.ok 0, r)

theorem loadAll_eq_each (tree : FileTree Program) (r : Registry) (files : List Path) :
    loadAll tree r files = each (loadOne tree) r files := by
  have := Logged.lawfulMonad
  induction files generalizing r with
  | nil => rfl
  | cons path rest ih =>
      rw [each, loadAll, loadOne]
      cases load tree path with
      | ok m =>
          simp only [ih, andThen, bind_assoc]
          congr 1
          funext x
          obtain ⟨outcome, after⟩ := x
          cases outcome <;> simp
      | error failure => cases hends : endsScan failure <;> simp [ih, andThen, hends, map_count]

/-! ## Turns -/

/-- What a registry comes to while it goes through plugins: an offer, or a failure that ends
everything. -/
inductive Turn where
  | offer (o : Offer)
  | interruption (f : Failure)

/-- The failure with which a turn ends everything, if it does: one that is no ordinary exception. -/
def Turn.stop? (r : Registry) : Turn → Option Failure
  | .offer o => (o.failure? r).filter (·.isExit)
  | .interruption f => some f

/-- The failure with which turns end everything, if one of them does. -/
def stop? (r : Registry) (turns : List Turn) : Option Failure := turns.findSome? (Turn.stop? r)

/-- The offers that a registry comes to, up to the turn that ends everything. -/
def reached (r : Registry) : List Turn → List Offer
  | [] => []
  | .offer o :: rest => o :: if ((Turn.offer o).stop? r).isSome then [] else reached r rest
  | .interruption _ :: _ => []

theorem reached_append (r : Registry) (turns more : List Turn) :
    r.reached (turns ++ more) =
      r.reached turns ++ if (r.stop? turns).isSome then [] else r.reached more := by
  induction turns with
  | nil => rfl
  | cons turn rest ih =>
      cases turn with
      | interruption f => rfl
      | offer o =>
          have hcons : r.stop? (.offer o :: rest) = ((Turn.offer o).stop? r).or (r.stop? rest) := by
            rw [stop?, List.findSome?_cons]
            cases (Turn.offer o).stop? r <;> rfl
          rw [List.cons_append, reached, reached, ih, hcons]
          cases (Turn.offer o).stop? r with
          | none => rfl
          | some f => simp

/-- What a registry holds does not matter for the offers that it comes to. -/
theorem reached_takeAll (r : Registry) (offers : List Offer) (turns : List Turn) :
    (r.takeAll offers).reached turns = r.reached turns := by
  induction turns with
  | nil => rfl
  | cons turn rest ih =>
      cases turn with
      | interruption f => rfl
      | offer o =>
          rw [reached, reached, ih]
          rfl

/-- A run of a registry through turns: what it takes, what it warns about, and how it ends. -/
structure Runs (r : Registry) (turns : List Turn) (x : Logged (Except Failure Nat × Registry)) :
    Prop where
  after : x.value.2 = r.takeAll (r.reached turns)
  warnings : warningsOf x.log = r.warningsFor (r.reached turns)
  outcome : x.value.1 = match r.stop? turns with
    | some f => .error f
    | none => .ok (r.accepted (r.reached turns)).length

namespace Runs

variable {r : Registry} {turns more : List Turn} {x : Logged (Except Failure Nat × Registry)}

theorem stop?_eq_some_iff (h : Runs r turns x) {f : Failure} :
    r.stop? turns = some f ↔ x.value.1 = .error f := by
  rw [h.outcome]
  cases r.stop? turns <;> simp

theorem count_eq (h : Runs r turns x) {n : Nat} (hn : x.value.1 = .ok n) :
    r.stop? turns = none ∧ n = (r.accepted (r.reached turns)).length := by
  rw [h.outcome] at hn
  cases hstop : r.stop? turns with
  | some f => simp [hstop] at hn
  | none => simpa [hstop, eq_comm] using hn

/-- One part of a run after the other. -/
theorem andThen {next : Registry → Logged (Except Failure Nat × Registry)} (h : Runs r turns x)
    (hnext : ∀ r, Runs r more (next r)) : Runs r (turns ++ more) (andThen x next) := by
  have hrest := hnext x.value.2
  rw [h.after] at hrest
  have hstops : (r.takeAll (r.reached turns)).stop? more = r.stop? more := rfl
  have hboth : r.stop? (turns ++ more) = (r.stop? turns).or (r.stop? more) :=
    List.findSome?_append
  cases hstop : r.stop? turns with
  | some f =>
      have hfirst := h.stop?_eq_some_iff.mp hstop
      refine ⟨?_, ?_, ?_⟩ <;>
        simp [andThen_value, andThen_log, hfirst, reached_append, hstop, hboth, h.after, h.warnings]
  | none =>
      have hfirst := h.outcome
      simp only [hstop] at hfirst
      obtain ⟨hafter, hwarnings, houtcome⟩ := hrest
      rw [reached_takeAll] at hafter hwarnings
      rw [reached_takeAll, accepted_takeAll, hstops] at houtcome
      refine ⟨?_, ?_, ?_⟩
      · simp only [andThen_value, hfirst, h.after, hafter, reached_append, hstop, takeAll_append]
        rfl
      · simp only [andThen_log, hfirst, warningsOf_append, h.warnings, h.after, hwarnings,
          reached_append, hstop, warningsFor_append]
        rfl
      · simp only [andThen_value, hfirst, h.after, houtcome, hboth, hstop, reached_append,
          accepted_append, List.length_append, Option.none_or]
        cases r.stop? more <;> simp [Except.map]

/-- Only the warnings of a log matter. -/
theorem congr {y : Logged (Except Failure Nat × Registry)} (h : Runs r turns x)
    (hvalue : y.value = x.value) (hlog : warningsOf y.log = warningsOf x.log) : Runs r turns y :=
  ⟨hvalue ▸ h.after, hlog.trans h.warnings, hvalue ▸ h.outcome⟩

/-- A step that is a run through the turns of each thing makes a run through the turns of all. -/
theorem each {α : Type} {step : Registry → α → Logged (Except Failure Nat × Registry)}
    {turnsOf : α → List Turn} (hstep : ∀ r a, Runs r (turnsOf a) (step r a)) (r : Registry)
    (as : List α) : Runs r (as.flatMap turnsOf) (each step r as) := by
  induction as generalizing r with
  | nil => exact ⟨rfl, rfl, rfl⟩
  | cons a rest ih =>
      rw [List.flatMap_cons]
      exact (hstep r a).andThen ih

end Runs

/-! ## Modules -/

/-- What a registry comes to in a member: the offer that it makes if it is marked. Where its marker
cannot be looked for the failure may end everything. -/
def memberTurns (source : String) (member : String × Object) : List Turn :=
  match member.2.marker with
  | .error f => if f.isExit then [.interruption f] else []
  | .ok _ => (Offer.ofObject? (some source) member.2).toList.map .offer

theorem reached_memberTurns (r : Registry) (source : String) (member : String × Object) :
    r.reached (memberTurns source member) = (Offer.ofObject? (some source) member.2).toList := by
  unfold memberTurns
  cases hmarker : member.2.marker with
  | error f =>
      have hoffer : Offer.ofObject? (some source) member.2 = none := by
        simp [Offer.ofObject?, hmarker]
      cases hexit : f.isExit <;> simp [hoffer, hexit, reached]
  | ok marker => cases Offer.ofObject? (some source) member.2 <;> simp [reached]

/-- A member ends everything if the registry fails at it, and not with an ordinary failure. -/
theorem stop?_memberTurns (r : Registry) (source : String) (member : String × Object) :
    r.stop? (memberTurns source member) =
      (Offer.failureAt? r (some source) member.2).filter (·.isExit) := by
  unfold memberTurns Offer.failureAt?
  cases member.2.marker with
  | error f => cases hexit : f.isExit <;> simp [stop?, Turn.stop?, Option.filter, hexit]
  | ok marker =>
      cases Offer.ofObject? (some source) member.2 with
      | none => rfl
      | some o =>
          simp only [stop?, Option.toList_some, List.map_singleton, List.findSome?_cons, Turn.stop?,
            Option.bind_some]
          cases (o.failure? r).filter (·.isExit) <;> rfl

/-- A member that cannot be looked at is logged, unless its failure ends everything. -/
theorem registerMember_spec (source : String) (r : Registry) (member : String × Object) :
    (registerMember source r member).value =
        (match (Offer.failureAt? r (some source) member.2).filter (·.isExit) with
          | some f => .error f
          | none => .ok (r.accepted (Offer.ofObject? (some source) member.2).toList).length,
          r.takeAll (Offer.ofObject? (some source) member.2).toList) ∧
      warningsOf (registerMember source r member).log =
        r.warningsFor (Offer.ofObject? (some source) member.2).toList := by
  obtain ⟨hvalue, hwarnings⟩ := registerIfMarked_spec r member.2 (some source)
  unfold registerMember
  cases hfailure : Offer.failureAt? r (some source) member.2 with
  | none =>
      rw [hfailure] at hvalue
      have hcount : (((Offer.ofObject? (some source) member.2).map (Offer.isAccepted r)).getD
          false).toNat = (r.accepted (Offer.ofObject? (some source) member.2).toList).length := by
        cases Offer.ofObject? (some source) member.2 with
        | none => rfl
        | some o => cases haccepted : o.isAccepted r <;> simp [accepted, haccepted]
      simp [hvalue, hwarnings, hcount]
  | some f =>
      rw [hfailure] at hvalue
      have hnone := accepted_of_failureAt? hfailure
      cases hexit : f.isExit with
      | true => simp [hvalue, hwarnings, hexit, Option.filter]
      | false =>
          refine ⟨by simp [hvalue, hnone, hexit, Option.filter], ?_⟩
          simp only [Logged.log_bind, hvalue, hexit, warningsOf_append, hwarnings]
          exact List.append_nil _

theorem registerMember_runs (source : String) (r : Registry) (member : String × Object) :
    Runs r (memberTurns source member) (registerMember source r member) := by
  obtain ⟨hvalue, hwarnings⟩ := registerMember_spec source r member
  refine ⟨?_, ?_, ?_⟩
  · rw [hvalue, reached_memberTurns]
  · rw [hwarnings, reached_memberTurns]
  · rw [hvalue, reached_memberTurns, stop?_memberTurns]

theorem registerCandidates_runs (source : String) (r : Registry)
    (members : List (String × Object)) :
    Runs r (members.flatMap (memberTurns source)) (registerCandidates source r members) := by
  rw [registerCandidates_eq_each]
  exact Runs.each (registerMember_runs source) r members

/-- What a registry comes to in a module. If its members cannot be listed it makes no offers, and
the failure may end everything. -/
def moduleTurns (m : Module) (source : Option String) : List Turn :=
  match m.candidates with
  | .ok members => members.flatMap (memberTurns (moduleSource m source))
  | .error f => if f.isExit then [.interruption f] else []

theorem registerModule_runs (r : Registry) (m : Module) (source : Option String) :
    Runs r (moduleTurns m source) (r.registerModule m source) := by
  unfold registerModule moduleTurns
  cases m.candidates with
  | ok members => exact registerCandidates_runs (moduleSource m source) r members
  | error f =>
      cases hexit : f.isExit <;> simp only [hexit] <;> exact ⟨rfl, rfl, rfl⟩

/-! ## Scanning -/

/-- What a registry comes to in a plugin. -/
def pluginTurns (tree : FileTree Program) (path : Path) : List Turn :=
  match load tree path with
  | .ok m => moduleTurns m (some path.toString)
  | .error f => if endsScan f then [.interruption f] else []

theorem loadOne_runs (tree : FileTree Program) (r : Registry) (path : Path) :
    Runs r (pluginTurns tree path) (loadOne tree r path) := by
  unfold loadOne pluginTurns
  cases load tree path with
  | ok m =>
      have hmodule := registerModule_runs r m (some path.toString)
      refine hmodule.congr ?_ ?_
      · simp only [Logged.value_bind]
        split
        next f hf => exact Prod.ext hf.symm rfl
        next n hn => exact Prod.ext hn.symm rfl
      · simp only [Logged.log_bind]
        split <;> simp [warningsOf, Logged.note]
  | error f =>
      cases hends : endsScan f <;> simp only [hends] <;> exact ⟨rfl, rfl, rfl⟩

theorem loadAll_runs (tree : FileTree Program) (r : Registry) (files : List Path) :
    Runs r (files.flatMap (pluginTurns tree)) (loadAll tree r files) := by
  rw [loadAll_eq_each]
  exact Runs.each (loadOne_runs tree) r files

theorem scan_of_found {tree : FileTree Program} {root : Path} {files : List Path}
    (h : tree.pluginFiles root = .ok files) (r : Registry) :
    (scan tree r root).value =
        ((loadAll tree r files).value.1.map (files.length, ·), (loadAll tree r files).value.2) ∧
      ∃ entry : LogEntry, entry.level = .debug ∧
        (scan tree r root).log = entry :: (loadAll tree r files).log := by
  simp only [scan, h]
  exact ⟨rfl, _, rfl, congrArg _ (List.append_nil _)⟩

/-- What a registry comes to in a scan. -/
def scanTurns (tree : FileTree Program) (root : Path) : List Turn :=
  match tree.pluginFiles root with
  | .ok files => files.flatMap (pluginTurns tree)
  | .error _ => []

/-! ## Whole runs -/

/-- A call that can change a registry. Each scan may find another tree. -/
inductive Call where
  | register (o : Object) (source : Option String)
  | registerModule (m : Module) (source : Option String)
  | scan (tree : FileTree Program) (root : Path)

namespace Call

/-- What a registry comes to in a call. -/
def turns : Call → List Turn
  | register o source => (Offer.ofObject? source o).toList.map .offer
  | registerModule m source => moduleTurns m source
  | scan tree root => scanTurns tree root

/-- The offers that a registry comes to in a call. -/
def offers (start : Registry) (c : Call) : List Offer := start.reached c.turns

theorem offers_register (start : Registry) (o : Object) (source : Option String) :
    (register o source).offers start = (Offer.ofObject? source o).toList := by
  simp only [offers, turns]
  cases Offer.ofObject? source o with
  | none => rfl
  | some offer => simp only [Option.toList_some, List.map_cons, List.map_nil, reached, ite_self]

/-- A call is interrupted between the analyzers that it registers: by a failure that is no ordinary
exception. -/
def IsInterrupted (start : Registry) : Call → Prop
  | register .. => False
  | registerModule m source => (start.stop? (moduleTurns m source)).isSome = true
  | scan tree root => (start.stop? (scanTurns tree root)).isSome = true

/-- Make a call. It returns how many analyzers it has registered. -/
def perform (r : Registry) : Call → Logged (Except Failure Nat × Registry)
  | register o source => do
      let (isNew, r) ← r.register o source
      return (isNew.map Bool.toNat, r)
  | registerModule m source => r.registerModule m source
  | scan tree root => do
      let (counts, r) ← Registry.scan tree r root
      return (counts.map (·.2), r)

/-- Make calls one after the other, whatever becomes of each. -/
def performAll (r : Registry) : List Call → Logged (List (Except Failure Nat) × Registry)
  | [] => return ([], r)
  | c :: rest => do
      let (outcome, r) ← c.perform r
      let (outcomes, r) ← performAll r rest
      return (outcome :: outcomes, r)

/-- A call reports what it has registered: a count is that of the analyzers that were accepted. After
a failure there are none, unless the call was interrupted, and then there is a failure. -/
structure Reports (start : Registry) (c : Call) (outcome : Except Failure Nat) : Prop where
  returned : ∀ n, outcome = .ok n → n = (start.accepted (c.offers start)).length
  failed : ∀ f, outcome = .error f → start.accepted (c.offers start) = [] ∨ c.IsInterrupted start
  interrupted : c.IsInterrupted start → ∃ f, outcome = .error f

/-- What a registry holds does not matter for what a call reports. -/
theorem Reports.of_takeAll {r : Registry} {offers : List Offer} {c : Call}
    {outcome : Except Failure Nat} (h : Reports (r.takeAll offers) c outcome) :
    Reports r c outcome := by
  have hoffers : c.offers (r.takeAll offers) = c.offers r := reached_takeAll r offers c.turns
  have hinterrupted : c.IsInterrupted (r.takeAll offers) ↔ c.IsInterrupted r := by
    cases c <;> rfl
  obtain ⟨hreturned, hfailed, hinterrupts⟩ := h
  rw [hoffers, accepted_takeAll] at hreturned hfailed
  rw [hinterrupted] at hinterrupts
  exact ⟨hreturned, fun f hf => (hfailed f hf).imp_right hinterrupted.mp, hinterrupts⟩

/-- A run through the turns of a call reports what it has registered. -/
theorem Reports.of_runs {r : Registry} {c : Call} {x : Logged (Except Failure Nat × Registry)}
    (h : Runs r c.turns x)
    (hinterrupted : c.IsInterrupted r ↔ (r.stop? c.turns).isSome = true) :
    Reports r c x.value.1 := by
  refine ⟨fun n hn => (h.count_eq hn).2, fun f hf => ?_, fun hstop => ?_⟩
  · rw [hinterrupted, h.stop?_eq_some_iff.mpr hf]
    exact .inr rfl
  · obtain ⟨f, hf⟩ := Option.isSome_iff_exists.mp (hinterrupted.mp hstop)
    exact ⟨f, h.stop?_eq_some_iff.mp hf⟩

theorem perform_spec (r : Registry) (c : Call) :
    (c.perform r).value.2 = r.takeAll (c.offers r) ∧
      warningsOf (c.perform r).log = r.warningsFor (c.offers r) ∧
      Reports r c (c.perform r).value.1 := by
  cases c with
  | register o source =>
      obtain ⟨hafter, hwarnings, hreturned, hfailed⟩ := register_spec r o source
      simp only [perform, Logged.log_bind, Logged.log_pure, List.append_nil, Logged.value_bind,
        Logged.value_pure, offers_register]
      refine ⟨hafter, hwarnings, ⟨fun n hn => ?_, fun f hf => ?_, False.elim⟩⟩
      · obtain ⟨isNew, hnew, rfl⟩ := Attempt.of_map_eq_ok hn
        rw [offers_register]
        exact hreturned isNew hnew
      · rw [offers_register]
        exact .inl (hfailed f (Attempt.of_map_eq_error hf))
  | registerModule m source =>
      have hruns := registerModule_runs r m source
      exact ⟨hruns.after, hruns.warnings, .of_runs hruns Iff.rfl⟩
  | scan tree root =>
      simp only [perform, Logged.log_bind, Logged.log_pure, List.append_nil, Logged.value_bind,
        Logged.value_pure]
      cases hfiles : tree.pluginFiles root with
      | error f =>
          have hturns : (scan tree root).turns = [] := by simp only [turns, scanTurns, hfiles]
          have hquiet : ¬ (scan tree root).IsInterrupted r := by
            simp [IsInterrupted, scanTurns, hfiles, stop?]
          simp only [Registry.scan, hfiles, offers, hturns]
          refine ⟨rfl, rfl, ⟨(fun _ hn => nomatch hn), fun _ _ => .inl ?_, fun h => absurd h hquiet⟩⟩
          rw [offers, hturns]
          rfl
      | ok files =>
          have hruns : Runs r (scan tree root).turns (loadAll tree r files) := by
            simp only [turns, scanTurns, hfiles]
            exact loadAll_runs tree r files
          obtain ⟨hvalue, entry, hlevel, hlog⟩ := scan_of_found hfiles r
          have houtcome : ∀ outcome : Except Failure Nat,
              (outcome.map (files.length, ·)).map (·.2) = outcome := by
            intro outcome
            cases outcome <;> rfl
          have hnote : warningsOf (entry :: (loadAll tree r files).log) =
              warningsOf (loadAll tree r files).log := by simp [warningsOf, hlevel]
          rw [hvalue, hlog, hnote, houtcome]
          exact ⟨hruns.after, hruns.warnings, .of_runs hruns Iff.rfl⟩

theorem flatMap_offers_takeAll (r : Registry) (offered : List Offer) (calls : List Call) :
    calls.flatMap (offers (r.takeAll offered)) = calls.flatMap (offers r) :=
  congrArg calls.flatMap (funext fun c => reached_takeAll r offered c.turns)

theorem performAll_spec (r : Registry) (calls : List Call) :
    (performAll r calls).value.2 = r.takeAll (calls.flatMap (offers r)) ∧
      warningsOf (performAll r calls).log = r.warningsFor (calls.flatMap (offers r)) ∧
      List.Forall₂ (Reports r) calls (performAll r calls).value.1 := by
  induction calls generalizing r with
  | nil => exact ⟨rfl, rfl, .nil⟩
  | cons c rest ih =>
      obtain ⟨hafter, hwarnings, hreports⟩ := perform_spec r c
      obtain ⟨hlast, hmore, hothers⟩ := ih (c.perform r).value.2
      rw [hafter] at hlast hmore hothers
      rw [flatMap_offers_takeAll] at hlast hmore
      simp only [performAll, List.flatMap_cons, Logged.log_bind, Logged.value_bind, Logged.log_pure,
        Logged.value_pure, List.append_nil, hafter]
      refine ⟨?_, ?_, .cons hreports (hothers.imp fun _ _ h => h.of_takeAll)⟩
      · rw [hlast, takeAll_append]
      · rw [warningsOf_append, hwarnings, hmore, warningsFor_append]

/-- How many analyzers calls have registered according to what they returned. -/
def totalOf : List (Except Failure Nat) → Nat
  | [] => 0
  | outcome :: rest => outcome.toOption.getD 0 + totalOf rest

/-- Unless a call is interrupted, calls return how many analyzers they have registered. -/
theorem totalOf_of_reports {r : Registry} {calls : List Call} {outcomes : List (Except Failure Nat)}
    (h : List.Forall₂ (Reports r) calls outcomes) (hcalls : ∀ c ∈ calls, ¬ c.IsInterrupted r) :
    totalOf outcomes = (r.accepted (calls.flatMap (offers r))).length := by
  induction h with
  | nil => rfl
  | @cons c outcome calls outcomes hhead htail ih =>
      have hrest := ih fun d hd => hcalls d (List.mem_cons_of_mem c hd)
      have hreturned : outcome.toOption.getD 0 = (r.accepted (c.offers r)).length := by
        cases outcome with
        | ok n => exact hhead.returned n rfl
        | error failure =>
            rw [(hhead.failed failure rfl).resolve_right (hcalls c List.mem_cons_self)]
            rfl
      rw [totalOf, List.flatMap_cons, accepted_append, List.length_append, hreturned, hrest]

/-- The analyzers that a registry accepts in the course of calls. -/
def registered (start : Registry) (calls : List Call) : List Descriptor :=
  start.accepted (calls.flatMap (offers start))

theorem registered_append (start : Registry) (calls more : List Call) :
    registered start (calls ++ more) = registered start calls ++ registered start more := by
  rw [registered, List.flatMap_append, accepted_append]
  rfl

/-- The offers that are warned about in vain in the course of calls. -/
def unfinished (start : Registry) (calls : List Call) : List Offer :=
  Registry.unfinished start (calls.flatMap (offers start))

end Call

/-- The account of a registry after calls: it starts without entries, and the calls have given
outcomes and written a log on the way. -/
structure Account (start : Registry) (calls : List Call) (outcomes : List (Except Failure Nat))
    (log : List LogEntry) (r : Registry) : Prop where
  /-- An entry stands under its own name, is for the right kind of host and is not excluded. -/
  entries_fit : ∀ e ∈ r.entries, (e.1 = e.2.name ∨ e.1.same e.2.name = true) ∧
    e.2.kind = start.kind ∧ start.excluded.any (fun name => name.same e.2.name) = false
  /-- No name has two entries. -/
  keys_apart : KeysApart r.entries
  /-- Under a name stands the last analyzer of this name that was accepted. -/
  last_stays : ∀ name, LawfulNames (name :: (Call.registered start calls).map (·.name)) →
    r.find? name = (Call.registered start calls).reverse.find? fun d => d.name.same name
  /-- Scanning a tree again changes nothing. -/
  rescan : ∀ tree root,
    LawfulNames ((Call.registered start (calls ++ [.scan tree root])).map (·.name)) →
    (scan tree (scan tree r root).value.2 root).value.2 = (scan tree r root).value.2
  /-- The warnings tell of analyzers that replace others, or were to replace them. -/
  warnings : ∀ entry ∈ warningsOf log, ∃ o ∈ calls.flatMap (Call.offers start),
    o.isFit start = true ∧ ∃ previous, entry = replacementRecord o.descriptor previous
  /-- Each accepted analyzer is an entry or has replaced one, and so are the ones that are warned
  about in vain. -/
  balance : (Call.registered start calls).length + (Call.unfinished start calls).length =
    (warningsOf log).length + r.entries.length
  /-- What is warned about in vain cannot be wrapped. -/
  unfinished : ∀ o ∈ Call.unfinished start calls,
    o ∈ calls.flatMap (Call.offers start) ∧ o.canWrap = false
  /-- Each call returns how many analyzers it has registered. -/
  reports : List.Forall₂ (Call.Reports start) calls outcomes
  /-- So each one that was counted is an entry or has replaced one, unless a call is interrupted. -/
  total : (∀ c ∈ calls, ¬ c.IsInterrupted start) →
    Call.totalOf outcomes + (Call.unfinished start calls).length =
      (warningsOf log).length + r.entries.length
  /-- Nothing was counted exactly if there is no entry. -/
  total_eq_zero : (∀ c ∈ calls, ¬ c.IsInterrupted start) →
    (Call.totalOf outcomes = 0 ↔ r.entries = [])

/-- Scanning a tree twice puts the same analyzers twice. -/
theorem scan_scan {tree : FileTree Program} {root : Path} {r : Registry}
    (hlawful : LawfulNames
      ((r.accepted (r.reached (scanTurns tree root))).map (·.name) ++ r.entries.map (·.1)))
    (hapart : KeysApart r.entries) :
    (scan tree (scan tree r root).value.2 root).value.2 = (scan tree r root).value.2 := by
  have hscan : ∀ r, (scan tree r root).value.2 = r.takeAll (r.reached (scanTurns tree root)) :=
    fun r => (Call.perform_spec r (.scan tree root)).1
  rw [hscan, hscan, reached_takeAll]
  exact congrArg (fun entries => { r with entries }) (putAll_putAll hlawful hapart)

/-- A registry is accounted for after any calls. -/
theorem account_performAll (kind : HostKind) (excluded : List Value) (calls : List Call) :
    Account { kind, excluded } calls (Call.performAll { kind, excluded } calls).value.1
      (Call.performAll { kind, excluded } calls).log
      (Call.performAll { kind, excluded } calls).value.2 := by
  let start : Registry := { kind, excluded }
  obtain ⟨hafter, hwarnings, hreports⟩ := Call.performAll_spec start calls
  have hentries : (Call.performAll start calls).value.2.entries =
      putAll [] (Call.registered start calls) := congrArg Registry.entries hafter
  have hapart : KeysApart (Call.performAll start calls).value.2.entries := by
    rw [hentries]
    exact KeysApart.putAll keysApart_nil _
  have hbalance : (Call.registered start calls).length + (Call.unfinished start calls).length =
      (warningsOf (Call.performAll start calls).log).length +
        (Call.performAll start calls).value.2.entries.length := by
    rw [hafter, hwarnings]
    exact length_takeAll start (calls.flatMap (Call.offers start))
  have htotal : (∀ c ∈ calls, ¬ c.IsInterrupted start) →
      Call.totalOf (Call.performAll start calls).value.1 = (Call.registered start calls).length :=
    Call.totalOf_of_reports hreports
  refine
    { entries_fit := ?_, keys_apart := hapart, last_stays := ?_, rescan := ?_
      warnings := fun entry hentry => mem_warningsFor (hwarnings ▸ hentry), balance := hbalance
      unfinished := fun o ho => canWrap_of_mem_unfinished ho, reports := hreports
      total := fun hcalls => htotal hcalls ▸ hbalance, total_eq_zero := ?_ }
  · intro e he
    rw [hentries] at he
    rcases mem_putAll he with hnone | ⟨hmem, hkey⟩
    · exact absurd hnone List.not_mem_nil
    · exact ⟨hkey, mem_accepted hmem⟩
  · intro name hlawful
    have hunder : under name (putAll [] (Call.registered start calls)) =
        ((Call.registered start calls).reverse.find? fun d => d.name.same name).or none :=
      under_putAll (by simpa using hlawful)
    rw [← hentries, Option.or_none] at hunder
    exact hunder
  · intro tree root hlawful
    refine scan_scan (hlawful.of_subset ?_) hapart
    rw [hafter, reached_takeAll, accepted_takeAll, ← hafter, hentries]
    intro name hname
    rw [Call.registered_append, List.map_append, List.mem_append]
    rcases List.mem_append.mp hname with hname | hname
    · exact .inr (by simpa [Call.registered, Call.offers, Call.turns] using hname)
    · exact .inl (by simpa using mem_keys_putAll hname)
  · intro hcalls
    rw [htotal hcalls, hentries, List.length_eq_zero_iff]
    exact ⟨fun hnone => by rw [hnone]; rfl, fun hnone => (putAll_eq_nil hnone).2⟩

/-- A function that takes any context and finds nothing, with a marker. -/
def quiet (name : String) : Object :=
  .function
    { name := "quiet", home := "plugin"
      parameters := [{ name := "context" }]
      marker := .ok (some { kind := .cli, name := .text name })
      body := fun _ => .ok (.many [] none) }

/-- Of two analyzers with one name the second one stays, and a call with an object that is not
marked changes nothing. -/
theorem account_performAll_quiet :
    let calls : List Call := [.register (quiet "Naming") (some "a"), .register (.value .none) none,
      .register (quiet "Layout") none, .register (quiet "Naming") (some "b")]
    let run := Call.performAll { kind := .cli } calls
    (run.value.2.find? (.text "Naming")).map (·.source) = some (some "b") ∧
      Call.totalOf run.value.1 = 3 ∧ (warningsOf run.log).length = 1 ∧
      run.value.2.entries.length = 2 := by
  intro calls run
  have haccount := account_performAll .cli [] calls
  have hlawful : LawfulNames
      (.text "Naming" :: (Call.registered { kind := .cli } calls).map (·.name)) :=
    lawfulNames_texts ["Naming", "Naming", "Layout", "Naming"]
  have hfound := haccount.last_stays (.text "Naming") hlawful
  have htotal : Call.totalOf run.value.1 + (Call.unfinished { kind := .cli } calls).length =
      (warningsOf run.log).length + run.value.2.entries.length :=
    haccount.total (by simp [calls, Call.IsInterrupted])
  have hcount : Call.totalOf run.value.1 = 3 := by decide +kernel
  have hvain : (Call.unfinished { kind := .cli } calls).length = 0 := by decide +kernel
  have hwarnings : (warningsOf run.log).length = 1 := by decide +kernel
  refine ⟨?_, hcount, hwarnings, ?_⟩
  · rw [hfound]
    decide +kernel
  · rw [hcount, hvain, hwarnings] at htotal
    omega

/-- A directory with a plugin of one analyzer and, behind it, one that interrupts the scan. -/
def interruptingTree : FileTree Program :=
  { entries :=
      [(["an"], .directory),
        (["an", "a_analyzer.py"], .file [] (some
          { members := [.function
              { name := "check", marker := some { kind := .cli, name := .text "Naming" } }]
            exports := .list [.text "check"] })),
        (["an", "b_analyzer.py"], .file [] (some
          { failure := some (.of "KeyboardInterrupt" "stop") }))] }

/-- A scan that is interrupted returns no count, and what it has registered until then stays. So the
calls have counted nothing, but there is an entry. -/
theorem account_performAll_interrupted :
    let calls : List Call := [.scan interruptingTree { root := .slash, parts := ["an"] }]
    let run := Call.performAll { kind := .cli } calls
    run.value.1.map (fun outcome => (Attempt.failure? outcome).map (·.kind)) =
        [some "KeyboardInterrupt"] ∧
      Call.totalOf run.value.1 = 0 ∧ (warningsOf run.log).length = 0 ∧
      run.value.2.entries.length = 1 := by
  decide +kernel

end Registry

end Assay.Plugin
