import Assay.Proofs.Entities

/-! # Names in targets

A target binds a name that it is, or the names of the targets that it groups. The names inside an
attribute or a subscript are only read to find the place that is assigned to. All names of a target
make variables, from the shallow ones to the deep ones, so variables are the names that are bound
exactly where nothing is assigned to an attribute or a subscript in which a name stands.
-/

namespace Assay.Check

open Source

/-! ## Names at nodes -/

/-- The name that a node is itself. -/
def nameAt? : Node → Option PlacedName
  | .expr (.name span id _) => some ⟨id, span⟩
  | _ => none

/-- The names at a node and below it. -/
def namesBelow (n : Node) : List PlacedName := n.walk.filterMap nameAt?

theorem namesBelow_eq (n : Node) :
    namesBelow n = (nameAt? n).toList ++ n.children.flatMap namesBelow := by
  rw [namesBelow, Node.walk_eq, List.filterMap_cons, List.filterMap_flatMap]
  cases nameAt? n <;> rfl

theorem flatten_mergeLevels {α : Type} (as bs : List (List α)) :
    ((mergeLevels as bs).flatten : Multiset α) = as.flatten + bs.flatten := by
  fun_induction mergeLevels as bs with
  | case1 bs => simp
  | case2 as h => simp
  | case3 a as b bs ih =>
      simp only [List.flatten_cons, ← Multiset.coe_add, ih]
      abel

theorem namesBelow_parameters (ps : List ParameterName) :
    (ps.map fun p => Node.parameter { toParameterName := p }).flatMap namesBelow = [] := by
  refine List.flatMap_eq_nil_iff.mpr fun n hn => ?_
  obtain ⟨p, -, rfl⟩ := List.mem_map.mp hn
  rw [namesBelow_eq]
  rfl

mutual

/-- Gathered by depth or node by node, the names of an expression are the same. -/
theorem flatten_nameLevels : (e : Expr) →
    ((nameLevels e).flatten : Multiset PlacedName) = namesBelow (.expr e)
  | .name .. | .literal .. => by
      rw [namesBelow_eq]
      rfl
  | .member _ object _ _ | .starred _ object _ => by
      rw [namesBelow_eq, nameLevels, List.flatten_cons, List.nil_append, flatten_nameLevels object]
      simp [nameAt?, Node.children]
  | .sequence _ _ es _ | .operation _ _ es => by
      rw [namesBelow_eq, nameLevels, List.flatten_cons, List.nil_append, flatten_nameLevelsAll es]
      rfl
  | .subscript _ first second _ | .walrus _ first second => by
      rw [namesBelow_eq, nameLevels, List.flatten_cons, List.nil_append, flatten_mergeLevels,
        flatten_nameLevels first, flatten_nameLevels second]
      simp [nameAt?, Node.children]
  | .lambda _ ps defaults keywordDefaults body => by
      rw [namesBelow_eq]
      simp only [nameLevels, List.flatten_cons, List.nil_append, flatten_mergeLevels,
        flatten_nameLevelsAll, flatten_nameLevels body, nameAt?, Node.children, List.flatMap_append,
        namesBelow_parameters, ← Multiset.coe_add, Option.toList_none, List.flatMap_singleton]
      abel
  | .comprehension _ _ results isAsync target iterable conditions further => by
      rw [namesBelow_eq]
      simp only [nameLevels, List.flatten_cons, List.nil_append, flatten_mergeLevels,
        flatten_nameLevelsAll, flatten_nameLevelsClauses, flatten_nameLevels target,
        flatten_nameLevels iterable, nameAt?, Node.children, List.flatMap_append, List.flatMap_cons,
        namesBelow_eq (.clause _), ← Multiset.coe_add, Option.toList_none]

theorem flatten_nameLevelsAll : (es : List Expr) →
    ((nameLevelsAll es).flatten : Multiset PlacedName) = (es.map Node.expr).flatMap namesBelow
  | [] => rfl
  | e :: es => by
      rw [nameLevelsAll, flatten_mergeLevels, flatten_nameLevels e, flatten_nameLevelsAll es]
      rfl

theorem flatten_nameLevelsClauses : (cs : List Clause) →
    ((nameLevelsClauses cs).flatten : Multiset PlacedName) = (cs.map Node.clause).flatMap namesBelow
  | [] => rfl
  | .mk isAsync target iterable conditions :: rest => by
      rw [nameLevelsClauses, flatten_mergeLevels, flatten_nameLevelsClauses rest, List.flatten_cons,
        List.nil_append, flatten_mergeLevels, flatten_mergeLevels, flatten_nameLevels target,
        flatten_nameLevels iterable, flatten_nameLevelsAll conditions, List.map_cons,
        List.flatMap_cons, namesBelow_eq (.clause _)]
      simp [nameAt?, Node.children]

end

/-! ## Names that are bound -/

mutual

/-- The names that a target binds: the target itself, or those in the tuples, lists and stars that
it consists of. -/
def boundNames : Expr → List PlacedName
  | .name span id _ => [⟨id, span⟩]
  | .starred _ value _ => boundNames value
  | .sequence _ _ items _ => boundNamesAll items
  | _ => []

/-- The names that targets bind. -/
def boundNamesAll : List Expr → List PlacedName
  | [] => []
  | e :: es => boundNames e ++ boundNamesAll es

end

mutual

/-- The names in those parts of a target that bind nothing: its attributes and subscripts. -/
def innerNames : Expr → List PlacedName
  | .name .. => []
  | .starred _ value _ => innerNames value
  | .sequence _ _ items _ => innerNamesAll items
  | e => namesBelow (.expr e)

/-- The names in the parts of targets that bind nothing. -/
def innerNamesAll : List Expr → List PlacedName
  | [] => []
  | e :: es => innerNames e ++ innerNamesAll es

end

mutual

/-- Each name in a target is bound, or it stands in a part that binds nothing. -/
theorem bound_add_inner : (e : Expr) →
    (boundNames e + innerNames e : Multiset PlacedName) = namesBelow (.expr e)
  | .name .. => by
      rw [namesBelow_eq]
      rfl
  | .starred _ value _ => by
      rw [boundNames, innerNames, bound_add_inner value, namesBelow_eq (.expr (.starred ..))]
      simp [nameAt?, Node.children]
  | .sequence _ _ items _ => by
      rw [boundNames, innerNames, bound_add_innerAll items, namesBelow_eq]
      rfl
  | .literal .. | .member .. | .subscript .. | .operation .. | .walrus .. | .lambda ..
  | .comprehension .. => zero_add _

theorem bound_add_innerAll : (es : List Expr) →
    (boundNamesAll es + innerNamesAll es : Multiset PlacedName) =
      (es.map Node.expr).flatMap namesBelow
  | [] => rfl
  | e :: es => by
      rw [boundNamesAll, innerNamesAll, List.map_cons, List.flatMap_cons, ← Multiset.coe_add,
        ← Multiset.coe_add, ← Multiset.coe_add, ← bound_add_inner e, ← bound_add_innerAll es]
      abel

end

/-- The names that make variables are those that targets bind and those in other parts of them. -/
theorem assignedNames_perm (targets : List Expr) :
    (assignedNames targets).Perm (boundNamesAll targets ++ innerNamesAll targets) := by
  refine Multiset.coe_eq_coe.mp ?_
  rw [← Multiset.coe_add]
  induction targets with
  | nil => rfl
  | cons e es ih =>
      rw [assignedNames, List.flatMap_cons, ← assignedNames, boundNamesAll, innerNamesAll,
        ← Multiset.coe_add, ih, flatten_nameLevels, ← bound_add_inner e, ← Multiset.coe_add,
        ← Multiset.coe_add]
      abel

/-! ## Variables -/

/-- The variables among the entities of a checked file. -/
def CheckResults.variables (c : CheckResults) : List Heading :=
  (c.entities.filter fun e => e.kind = .variable).map Entity.heading

/-- The variables among all declarations of a file. -/
def DeclarationTree.variables (t : DeclarationTree) : List Heading :=
  (t.walk.filter fun d => d.kind = .variable).map Declaration.heading

/-- The statements of a module that stand in no function, but for classes inside it. -/
def declaring (m : Module) : List Stmt :=
  ((placesIn 0 m.body).filter fun p => !p.inFunction false).map (·.stmt)

theorem mem_declaring {m : Module} {s : Stmt} (h : s ∈ m.body) : s ∈ declaring m := by
  obtain ⟨i, hi⟩ := List.getElem?_of_mem h
  refine List.mem_map.mpr ⟨⟨[i], [], s⟩, List.mem_filter.mpr ⟨?_, rfl⟩, rfl⟩
  exact mem_placesIn_iff.mpr (.here hi)

section

variable (file : String)

/-- The variables for the names that the targets of statements bind. -/
def boundIn (ss : List Stmt) : List Heading :=
  (ss.flatMap fun s => boundNamesAll s.targets).map (variableOf file)

/-- The variables for the other names in the targets of statements. -/
def innerIn (ss : List Stmt) : List Heading :=
  (ss.flatMap fun s => innerNamesAll s.targets).map (variableOf file)

theorem variablesOf_perm (ss : List Stmt) :
    (ss.flatMap (variablesOf file)).Perm (boundIn file ss ++ innerIn file ss) := by
  have hassigned : ss.flatMap (variablesOf file) =
      (ss.flatMap fun s => assignedNames s.targets).map (variableOf file) :=
    (List.map_flatMap ..).symm
  rw [hassigned, boundIn, innerIn, ← List.map_append]
  refine List.Perm.map _ (.trans ?_ (List.flatMap_append_perm ..).symm)
  exact List.Perm.flatMap_left ss fun s _ => assignedNames_perm s.targets

/-- All variables are bound if there are no other names. -/
theorem variablesOf_perm_bound_iff (ss : List Stmt) :
    (ss.flatMap (variablesOf file)).Perm (boundIn file ss) ↔
      ∀ s ∈ ss, innerNamesAll s.targets = [] := by
  have hperm := variablesOf_perm file ss
  have hinner : innerIn file ss = [] ↔ ∀ s ∈ ss, innerNamesAll s.targets = [] := by
    rw [innerIn, List.map_eq_nil_iff, List.flatMap_eq_nil_iff]
  rw [← hinner]
  constructor
  · intro h
    have hlength := h.length_eq.symm.trans hperm.length_eq
    rw [List.length_append] at hlength
    exact List.length_eq_zero_iff.mp (by omega)
  · intro h
    rwa [h, List.append_nil] at hperm

/-- The variables among what is declared at a place. -/
theorem filter_declared (p : Place) :
    ((p.declared file false).filter fun h => h.kind = .variable) =
      if p.inFunction false then [] else variablesOf file p.stmt := by
  have hdefinition :
      ((definition? file p.stmt).toList.filter fun h => h.kind = .variable) = [] := by
    cases p.stmt <;> rfl
  have hvariables : ((variablesOf file p.stmt).filter fun h => h.kind = .variable) =
      variablesOf file p.stmt := by
    refine List.filter_eq_self.mpr fun h hh => ?_
    obtain ⟨n, -, rfl⟩ := List.mem_map.mp hh
    rfl
  rw [Place.declared, List.filter_append, hdefinition, List.nil_append]
  split
  · rfl
  · exact hvariables

theorem variables_of_entities {p : ParseResults} {m : Module} {c : CheckResults}
    (hm : p.tree = some m) (hc : (checkFile p).value = some c) :
    c.variables = m.body.flatMap (variablesOf p.file) := by
  rw [CheckResults.variables, entities_of_checkFile hm hc, entitiesOf, List.filter_flatMap,
    List.map_flatMap]
  refine congrArg m.body.flatMap (funext fun s => ?_)
  rw [filter_entitiesOfStmt p.file _ (· = .variable)]
  cases s with
  | assign | annotate => exact List.map_map
  | _ => rfl

theorem variables_of_declarations (m : Module) :
    (DeclarationTree.mk file (declarationsOf file false m.body)).variables =
      (declaring m).flatMap (variablesOf file) := by
  have hplaces : ((placesIn 0 m.body).flatMap fun p =>
      (p.declared file false).filter fun h => h.kind = .variable) =
        (declaring m).flatMap (variablesOf file) := by
    simp only [filter_declared, declaring, List.flatMap_map]
    induction placesIn 0 m.body with
    | nil => rfl
    | cons p places ih => cases hp : p.inFunction false <;> simp [hp, ih]
  rw [← hplaces, ← List.filter_flatMap, ← headings_walk, List.filter_map]
  rfl

end

/-- Each variable stands for a name that an assignment binds, and each such name has one. -/
structure VariablesBound (file : String) (m : Module) (c : CheckResults) (t : DeclarationTree) :
    Prop where
  /-- The entities for the assignments at the top. -/
  entities : c.variables.Perm (boundIn file m.body)
  /-- The declarations for all assignments outside of functions. -/
  declarations : t.variables.Perm (boundIn file (declaring m))

/-- The variables of a checked file are the names that its assignments bind and those that stand
inside attributes and subscripts that they assign to. So each variable is bound exactly if nothing
is assigned to an attribute or a subscript with a name in it. -/
theorem checkFile_variables {file source : String} {m : Module} {c : CheckResults}
    (hm : (parseFile file source).tree = some m)
    (hc : (checkFile (parseFile file source)).value = some c) :
    ∃ t, declarationTree (parseFile file source) = some t ∧
      c.variables.Perm (boundIn file m.body ++ innerIn file m.body) ∧
      t.variables.Perm (boundIn file (declaring m) ++ innerIn file (declaring m)) ∧
      (VariablesBound file m c t ↔ ∀ s ∈ declaring m, innerNamesAll s.targets = []) := by
  have hentities := variables_of_entities hm hc
  rw [parseFile_file] at hentities
  have htree := declarationTree_of_tree hm
  rw [parseFile_file] at htree
  refine ⟨_, htree, ?entities, ?declarations, ?bound⟩
  case entities => exact hentities ▸ variablesOf_perm file m.body
  case declarations => exact variables_of_declarations file m ▸ variablesOf_perm file (declaring m)
  case bound =>
    rw [← variablesOf_perm_bound_iff file]
    constructor
    · exact fun h => variables_of_declarations file m ▸ h.declarations
    · intro h
      have htop := (variablesOf_perm_bound_iff file m.body).mpr fun s hs =>
        (variablesOf_perm_bound_iff file _).mp h s (mem_declaring hs)
      exact ⟨hentities ▸ htop, variables_of_declarations file m ▸ h⟩

/-- The names of groups of targets are all bound. That of an object to whose attribute something is
assigned is a variable, but not bound. -/
theorem checkFile_variables_attribute :
    (∃ m c t, (parseFile "m.py" "x, (y, *z) = w\n").tree = some m ∧
      (checkFile (parseFile "m.py" "x, (y, *z) = w\n")).value = some c ∧
      declarationTree (parseFile "m.py" "x, (y, *z) = w\n") = some t ∧
      c.variables.length = 3 ∧ VariablesBound "m.py" m c t) ∧
    ∃ m c t, (parseFile "m.py" "a.b = 1\n").tree = some m ∧
      (checkFile (parseFile "m.py" "a.b = 1\n")).value = some c ∧
      declarationTree (parseFile "m.py" "a.b = 1\n") = some t ∧
      c.variables.map (·.name) = ["a"] ∧ boundIn "m.py" m.body = [] ∧
      ¬ VariablesBound "m.py" m c t := by
  constructor
  · have hrun : (fun source => (parseFile "m.py" source).tree.any fun m =>
        (checkFile (parseFile "m.py" source)).value.any fun c => c.variables.length = 3 ∧
          ∀ s ∈ declaring m, innerNamesAll s.targets = []) "x, (y, *z) = w\n" = true := by
      decide +kernel
    obtain ⟨m, hm, hrun⟩ := (Option.any_eq_true _ _).mp hrun
    obtain ⟨c, hc, hrun⟩ := (Option.any_eq_true _ _).mp hrun
    obtain ⟨hthree, hnone⟩ := of_decide_eq_true hrun
    obtain ⟨t, ht, -, -, hbound⟩ := checkFile_variables hm hc
    exact ⟨m, c, t, hm, hc, ht, hthree, hbound.mpr hnone⟩
  · have hrun : (fun source => (parseFile "m.py" source).tree.any fun m =>
        (checkFile (parseFile "m.py" source)).value.any fun c =>
          c.variables.map (·.name) = ["a"] ∧ boundIn "m.py" m.body = []) "a.b = 1\n" = true := by
      decide +kernel
    obtain ⟨m, hm, hrun⟩ := (Option.any_eq_true _ _).mp hrun
    obtain ⟨c, hc, hrun⟩ := (Option.any_eq_true _ _).mp hrun
    obtain ⟨hname, hnone⟩ := of_decide_eq_true hrun
    obtain ⟨t, ht, -, -, -⟩ := checkFile_variables hm hc
    refine ⟨m, c, t, hm, hc, ht, hname, hnone, fun h => ?_⟩
    have hlength := h.entities.length_eq
    rw [hnone, ← List.length_map (f := Heading.name), hname] at hlength
    cases hlength

end Assay.Check
