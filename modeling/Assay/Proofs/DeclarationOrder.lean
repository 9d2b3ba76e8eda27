import Assay.Check.File
import Mathlib.Data.List.Lex

/-! # Declarations in the order of the text

A statement stands in the body of the module or, through functions and classes, in a body inside it.
Where it stands is told by the numbers that lead to it; the order of these numbers is the order of
the text, in which a function or class comes before what is in it. The declarations of a file, gone
through from the top, are those of its statements in this order, each below the functions and
classes around its statement.
-/

namespace Assay.Source.Stmt

/-- The body of a function or a class. -/
def ownBody? : Stmt → Option (List Stmt)
  | function _ _ _ _ _ _ body | classDef _ _ _ _ _ body => some body
  | _ => none

/-- Whether a statement defines a function. -/
def isFunction : Stmt → Bool
  | function .. => true
  | _ => false

/-- The targets of an assignment, with a hint or without. -/
def targets : Stmt → List Expr
  | assign _ targets _ => targets
  | annotate _ target _ _ _ => [target]
  | _ => []

end Assay.Source.Stmt

namespace Assay.Check

open Source

/-! ## Where statements stand -/

/-- A statement with the numbers that lead to it and the functions and classes around it, the
outermost first. -/
structure Place where
  numbers : List Nat
  around : List Stmt
  stmt : Stmt

/-- A place inside the body of a statement with a number. -/
def Place.inside (i : Nat) (d : Stmt) (p : Place) : Place :=
  { p with numbers := i :: p.numbers, around := d :: p.around }

/-- Whether a statement stands at a place: right in a body, or in that of a function or class. -/
inductive Stands : List Stmt → Place → Prop where
  | here {body : List Stmt} {i : Nat} {s : Stmt} (h : body[i]? = some s) : Stands body ⟨[i], [], s⟩
  | inside {body inner : List Stmt} {i : Nat} {d : Stmt} {p : Place} (h : body[i]? = some d)
      (hinner : d.ownBody? = some inner) (hp : Stands inner p) : Stands body (p.inside i d)

mutual

/-- The places of a statement with a number and of those in its body. -/
def placesAt (i : Nat) : Stmt → List Place
  | .function span isAsync name signature returns decorators body =>
      let s := .function span isAsync name signature returns decorators body
      ⟨[i], [], s⟩ :: (placesIn 0 body).map (·.inside i s)
  | .classDef span name bases keywords decorators body =>
      let s := .classDef span name bases keywords decorators body
      ⟨[i], [], s⟩ :: (placesIn 0 body).map (·.inside i s)
  | s => [⟨[i], [], s⟩]

/-- The places in a body whose first statement has a number. -/
def placesIn (i : Nat) : List Stmt → List Place
  | [] => []
  | s :: rest => placesAt i s ++ placesIn (i + 1) rest

end

theorem placesAt_eq (i : Nat) (s : Stmt) :
    placesAt i s = ⟨[i], [], s⟩ :: (s.ownBody?.elim [] (placesIn 0)).map (·.inside i s) := by
  cases s <;> simp [placesAt, Stmt.ownBody?]

theorem mem_placesAt {i : Nat} {s : Stmt} {p : Place} :
    p ∈ placesAt i s ↔ p = ⟨[i], [], s⟩ ∨
      ∃ inner, s.ownBody? = some inner ∧ ∃ q ∈ placesIn 0 inner, p = q.inside i s := by
  rw [placesAt_eq]
  cases s.ownBody? with
  | none => simp
  | some inner => simp [eq_comm]

theorem mem_placesIn {i : Nat} {body : List Stmt} {p : Place} :
    p ∈ placesIn i body ↔ ∃ k s, body[k]? = some s ∧ p ∈ placesAt (i + k) s := by
  induction body generalizing i with
  | nil => simp [placesIn]
  | cons s rest ih =>
      rw [placesIn, List.mem_append, ih]
      constructor
      · rintro (hp | ⟨k, t, ht, hp⟩)
        · exact ⟨0, s, rfl, hp⟩
        · exact ⟨k + 1, t, ht, by rwa [Nat.add_right_comm] at hp⟩
      · rintro ⟨k, t, ht, hp⟩
        cases k with
        | zero =>
            cases ht
            exact .inl hp
        | succ k => exact .inr ⟨k, t, ht, by rwa [Nat.add_right_comm]⟩

/-- The places in a body are all places where a statement stands. -/
theorem mem_placesIn_iff {body : List Stmt} {p : Place} : p ∈ placesIn 0 body ↔ Stands body p := by
  constructor
  · intro hp
    -- each step inwards takes one number away
    induction hnumbers : p.numbers generalizing body p with
    | nil =>
        obtain ⟨k, s, -, hp⟩ := mem_placesIn.mp hp
        rcases mem_placesAt.mp hp with rfl | ⟨inner, -, q, -, rfl⟩ <;> cases hnumbers
    | cons i numbers ih =>
        obtain ⟨k, s, hs, hp⟩ := mem_placesIn.mp hp
        rcases mem_placesAt.mp hp with rfl | ⟨inner, hinner, q, hq, rfl⟩
        · exact .here (by simpa using hs)
        · exact .inside (by simpa using hs) hinner (ih hq (List.cons.inj hnumbers).2)
  · intro h
    induction h with
    | here hs => exact mem_placesIn.mpr ⟨_, _, hs, mem_placesAt.mpr (.inl (by simp))⟩
    | inside hs hinner _ ih =>
        exact mem_placesIn.mpr ⟨_, _, hs, mem_placesAt.mpr (.inr ⟨_, hinner, _, ih, by simp⟩)⟩

theorem numbers_of_mem_placesAt {i : Nat} {s : Stmt} {p : Place} (h : p ∈ placesAt i s) :
    p.numbers.head? = some i := by
  rcases mem_placesAt.mp h with rfl | ⟨_, -, _, -, rfl⟩ <;> rfl

/-- A place comes before another in the text. -/
def Place.Before (p q : Place) : Prop := p.numbers < q.numbers

theorem before_of_head? {p q : Place} {i j : Nat} (hp : p.numbers.head? = some i)
    (hq : q.numbers.head? = some j) (hij : i < j) : p.Before q := by
  obtain ⟨ps, hps⟩ := List.head?_eq_some_iff.mp hp
  obtain ⟨qs, hqs⟩ := List.head?_eq_some_iff.mp hq
  rw [Place.Before, hps, hqs]
  exact .rel hij

mutual

theorem pairwise_placesAt (i : Nat) : (s : Stmt) → (placesAt i s).Pairwise Place.Before
  | .function _ _ _ _ _ _ body | .classDef _ _ _ _ _ body => by
      have hbody := pairwise_placesIn 0 body
      refine List.pairwise_cons.mpr ⟨?first, ?rest⟩
      case first =>
        intro p hp
        obtain ⟨q, hq, rfl⟩ := List.mem_map.mp hp
        obtain ⟨k, t, -, hq⟩ := mem_placesIn.mp hq
        obtain ⟨ns, hns⟩ := List.head?_eq_some_iff.mp (numbers_of_mem_placesAt hq)
        rw [Place.Before, Place.inside, hns]
        exact .cons .nil
      case rest => exact List.pairwise_map.mpr (hbody.imp fun h => List.Lex.cons h)
  | .assign .. | .annotate .. | .expression .. | .evaluate .. | .flow .. | .guarded .. | .branch ..
  | .importModules .. | .importFrom .. | .globals .. | .nonlocals .. => List.pairwise_singleton ..

theorem pairwise_placesIn (i : Nat) : (body : List Stmt) → (placesIn i body).Pairwise Place.Before
  | [] => List.Pairwise.nil
  | s :: rest => by
      rw [placesIn, List.pairwise_append]
      refine ⟨pairwise_placesAt i s, pairwise_placesIn (i + 1) rest, fun p hp q hq => ?_⟩
      obtain ⟨k, t, -, hq⟩ := mem_placesIn.mp hq
      exact before_of_head? (numbers_of_mem_placesAt hp) (numbers_of_mem_placesAt hq) (by omega)

end

/-! ## Declarations and what is around them -/

/-- What is declared: a name, of which kind, and where. -/
structure Heading where
  name : String
  kind : EntityKind
  range : Range
  deriving DecidableEq, Repr

/-- What a declaration declares. -/
def Declaration.heading (d : Declaration) : Heading := ⟨d.name, d.kind, d.range⟩

namespace Declaration

mutual

/-- A declaration and those inside it, each with the headings of the declarations around it, the
outermost first. -/
def walkBelow (above : List Heading) : Declaration → List (List Heading × Declaration)
  | mk name kind range children =>
      (above, mk name kind range children) :: walkAllBelow (above ++ [⟨name, kind, range⟩]) children

/-- Declarations and those inside them. -/
def walkAllBelow (above : List Heading) : List Declaration → List (List Heading × Declaration)
  | [] => []
  | d :: ds => walkBelow above d ++ walkAllBelow above ds

end

mutual

theorem map_walkBelow (above : List Heading) : (d : Declaration) →
    (walkBelow above d).map Prod.snd = walk d
  | mk _ _ _ children => by
      rw [walkBelow, walk, List.map_cons, map_walkAllBelow _ children]

theorem map_walkAllBelow (above : List Heading) : (ds : List Declaration) →
    (walkAllBelow above ds).map Prod.snd = walkAll ds
  | [] => rfl
  | d :: ds => by
      rw [walkAllBelow, walkAll, List.map_append, map_walkBelow above d, map_walkAllBelow above ds]

end

theorem walkAllBelow_append (above : List Heading) (ds es : List Declaration) :
    walkAllBelow above (ds ++ es) = walkAllBelow above ds ++ walkAllBelow above es := by
  induction ds with
  | nil => rfl
  | cons d ds ih => rw [List.cons_append, walkAllBelow, ih, walkAllBelow, List.append_assoc]

end Declaration

/-! ## What statements declare -/

section Declared

variable (file : String)

/-- What a function or a class declares: itself. -/
def definition? : Stmt → Option Heading
  | .function span _ name .. => some ⟨name, .function, rangeOf file span⟩
  | .classDef span name .. => some ⟨name, .classDef, rangeOf file span⟩
  | _ => none

/-- A variable that a name in a target declares. -/
def variableOf (n : PlacedName) : Heading := ⟨n.name, .variable, rangeOf file n.span⟩

/-- The variables that an assignment declares, one for each name in its targets. -/
def variablesOf (s : Stmt) : List Heading := (assignedNames s.targets).map (variableOf file)

namespace Place

/-- Whether the innermost body around a place is that of a function; if there is none around it,
whether the place is in a function from the outset. -/
def inFunction (outset : Bool) (p : Place) : Bool := p.around.getLast?.elim outset Stmt.isFunction

/-- What is declared at a place: a function or a class, or the variables of an assignment that does
not stand in a function. -/
def declared (outset : Bool) (p : Place) : List Heading :=
  (definition? file p.stmt).toList ++ if p.inFunction outset then [] else variablesOf file p.stmt

/-- The headings of the functions and classes around a place. -/
def above (p : Place) : List Heading := p.around.filterMap (definition? file)

theorem inFunction_inside (outset : Bool) (i : Nat) (d : Stmt) (p : Place) :
    (p.inside i d).inFunction outset = p.inFunction d.isFunction := by
  rw [inFunction, inFunction, inside, List.getLast?_cons]
  cases p.around.getLast? <;> rfl

theorem declared_inside (outset : Bool) (i : Nat) (d : Stmt) (p : Place) :
    (p.inside i d).declared file outset = p.declared file d.isFunction := by
  rw [declared, declared, inFunction_inside]
  rfl

/-- What is declared at a place, each with the headings around it. -/
def entries (outset : Bool) (headings : List Heading) (p : Place) :
    List (List Heading × Heading) :=
  (p.declared file outset).map fun h => (headings ++ p.above file, h)

/-- Inside a function or a class its heading is around everything. -/
theorem entries_inside (outset : Bool) (headings : List Heading) (i : Nat) {d : Stmt} {h : Heading}
    (hd : definition? file d = some h) (p : Place) :
    (p.inside i d).entries file outset headings =
      p.entries file d.isFunction (headings ++ [h]) := by
  rw [entries, declared_inside, entries]
  simp [above, inside, hd]

theorem entries_here (outset : Bool) (headings : List Heading) (i : Nat) (s : Stmt) :
    entries file outset headings ⟨[i], [], s⟩ =
      ((definition? file s).toList ++ if outset then [] else variablesOf file s).map
        fun h => (headings, h) := by
  simp only [entries, declared, above, List.filterMap_nil, List.append_nil]
  rfl

end Place

/-- What a function or a class declares, and what is declared in its body. -/
theorem entries_definition (outset : Bool) (headings : List Heading) (i : Nat) {s : Stmt}
    {h : Heading} {inner : List Stmt} {children : List Declaration}
    (hs : definition? file s = some h) (hinner : s.ownBody? = some inner)
    (htargets : s.targets = [])
    (hchildren : (Declaration.walkAllBelow (headings ++ [h]) children).map
        (fun d => (d.1, d.2.heading)) =
      (placesIn 0 inner).flatMap (Place.entries file s.isFunction (headings ++ [h]))) :
    (Declaration.walkAllBelow headings [.mk h.name h.kind h.range children]).map
        (fun d => (d.1, d.2.heading)) =
      (placesAt i s).flatMap (Place.entries file outset headings) := by
  rw [placesAt_eq, hinner, List.flatMap_cons, Option.elim_some, List.flatMap_map,
    Place.entries_here, hs]
  simp only [Place.entries_inside file outset headings i hs, ← hchildren]
  simp [variablesOf, htargets, assignedNames, Declaration.walkAllBelow, Declaration.walkBelow,
    Declaration.heading, Declaration.name, Declaration.kind, Declaration.range]

/-- The variables of an assignment have no declarations inside them. -/
theorem entries_variables (headings : List Heading) (names : List PlacedName) :
    (Declaration.walkAllBelow headings
        (names.map fun n => .mk n.name .variable (rangeOf file n.span) [])).map
        (fun d => (d.1, d.2.heading)) =
      (names.map (variableOf file)).map fun h => (headings, h) := by
  induction names with
  | nil => rfl
  | cons n names ih =>
      rw [List.map_cons, List.map_cons, List.map_cons, ← ih]
      rfl

/-- What a statement without a body of its own declares. -/
theorem entries_leaf (outset : Bool) (headings : List Heading) (i : Nat) {s : Stmt}
    (hbody : s.ownBody? = none) (hs : definition? file s = none) :
    (placesAt i s).flatMap (Place.entries file outset headings) =
      (if outset then [] else variablesOf file s).map fun h => (headings, h) := by
  rw [placesAt_eq, hbody, Option.elim_none, List.map_nil, List.flatMap_singleton,
    Place.entries_here, hs]
  rfl

mutual

/-- The declarations of a statement are those at its places, in order. -/
theorem entries_ofStmt (outset : Bool) (headings : List Heading) (i : Nat) : (s : Stmt) →
    (Declaration.walkAllBelow headings (declarationsOfStmt file outset s)).map
        (fun d => (d.1, d.2.heading)) =
      (placesAt i s).flatMap (Place.entries file outset headings)
  | .function span _ name _ _ _ body =>
      entries_definition file outset headings i (h := ⟨name, .function, rangeOf file span⟩) rfl rfl
        rfl (entries_ofStmts true _ 0 body)
  | .classDef span name _ _ _ body =>
      entries_definition file outset headings i (h := ⟨name, .classDef, rangeOf file span⟩) rfl rfl
        rfl (entries_ofStmts false _ 0 body)
  | .assign _ targets _ => by
      rw [entries_leaf file outset headings i rfl rfl]
      cases outset
      · exact entries_variables file headings (assignedNames targets)
      · rfl
  | .annotate _ target _ _ _ => by
      rw [entries_leaf file outset headings i rfl rfl]
      cases outset
      · exact entries_variables file headings (assignedNames [target])
      · rfl
  | .expression .. | .evaluate .. | .flow .. | .guarded .. | .branch ..
  | .importModules .. | .importFrom .. | .globals .. | .nonlocals .. => by
      rw [entries_leaf file outset headings i rfl rfl]
      cases outset <;> rfl

theorem entries_ofStmts (outset : Bool) (headings : List Heading) (i : Nat) : (body : List Stmt) →
    (Declaration.walkAllBelow headings (declarationsOf file outset body)).map
        (fun d => (d.1, d.2.heading)) =
      (placesIn i body).flatMap (Place.entries file outset headings)
  | [] => rfl
  | s :: rest => by
      rw [declarationsOf, Declaration.walkAllBelow_append, List.map_append, placesIn,
        List.flatMap_append, entries_ofStmt outset headings i s,
        entries_ofStmts outset headings (i + 1) rest]

end

/-- Gone through from the top, the declarations of a body are those at its places. -/
theorem headings_walk (outset : Bool) (body : List Stmt) :
    (Declaration.walkAll (declarationsOf file outset body)).map Declaration.heading =
      (placesIn 0 body).flatMap (Place.declared file outset) := by
  have hentries := congrArg (List.map Prod.snd) (entries_ofStmts file outset [] 0 body)
  have hleft : ∀ ds, ((Declaration.walkAllBelow [] ds).map fun d => (d.1, d.2.heading)).map
      Prod.snd = (Declaration.walkAll ds).map Declaration.heading := by
    intro ds
    rw [← Declaration.map_walkAllBelow [] ds, List.map_map, List.map_map]
    rfl
  have hright : ∀ p : Place, (p.entries file outset []).map Prod.snd = p.declared file outset := by
    intro p
    rw [Place.entries, List.map_map]
    exact List.map_id _
  rw [hleft, List.map_flatMap] at hentries
  simpa only [hright] using hentries

end Declared

/-- All declarations of a file, each with the headings of those around it. -/
def DeclarationTree.walkBelow (t : DeclarationTree) : List (List Heading × Declaration) :=
  Declaration.walkAllBelow [] t.declarations

/-- The declarations of a file are those of all functions, classes and assignments outside of
functions that stand in bodies, in the order of the text. Around each declaration are the functions
and classes in whose bodies its statement stands. -/
theorem declarationTree_preorder (file : String) (m : Module) (diagnostics : List Message) :
    ∃ t, declarationTree { file, tree := some m, diagnostics } = some t ∧
      t.walkBelow.map Prod.snd = t.walk ∧
      ∃ places : List Place, (∀ p, p ∈ places ↔ Stands m.body p) ∧ places.Pairwise Place.Before ∧
        t.walkBelow.map (fun d => (d.1, d.2.heading)) =
          places.flatMap fun p => (p.declared file false).map fun h => (p.above file, h) := by
  refine ⟨{ file, declarations := declarationsOf file false m.body }, rfl,
    Declaration.map_walkAllBelow .., placesIn 0 m.body, fun _ => mem_placesIn_iff,
    pairwise_placesIn 0 m.body, ?_⟩
  exact entries_ofStmts file false [] 0 m.body

/-- A class in a function has variables, the function around it has none. -/
example :
    (declarationTree (parseFile "m.py" "def f():\n    x = 1\n    class C:\n        y = x\n")).map
        (fun t => t.walkBelow.map fun d => (d.1.map (·.name), d.2.name)) =
      some [([], "f"), (["f"], "C"), (["f", "C"], "y")] := by
  decide +kernel

end Assay.Check
