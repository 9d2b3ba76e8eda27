import Assay.Proofs.WalkSteps
import Mathlib.Algebra.BigOperators.Group.Multiset.Basic
import Mathlib.Tactic.Abel

/-! # Occurrences of names

The uses that are recorded of a module are those that one finds by going through all nodes of its
tree: none is lost, and none is counted twice.
-/

namespace Assay.Source

/-! ## Nodes -/

/-- A node of the tree of a module. The names of `import` and of `from … import` are told apart,
because they bind differently. -/
inductive Node where
  | stmt (s : Stmt)
  | handler (h : Handler)
  | arm (c : Case)
  | pattern (p : Pattern)
  | expr (e : Expr)
  | clause (c : Clause)
  | parameter (p : Parameter)
  | imported (a : Alias)
  | member (a : Alias)

namespace Node

/-- The nodes right below a node. -/
def children : Node → List Node
  | stmt (.function _ _ _ signature returns decorators body) =>
      signature.parameters.map parameter ++ signature.defaults.map expr ++
        signature.keywordDefaults.map expr ++ body.map stmt ++ decorators.map expr ++
        returns.toList.map expr
  | stmt (.classDef _ _ bases keywords decorators body) =>
      bases.map expr ++ keywords.map expr ++ body.map stmt ++ decorators.map expr
  | stmt (.assign _ targets value) => targets.map expr ++ [expr value]
  | stmt (.annotate _ target hint value _) => [expr target, expr hint] ++ value.toList.map expr
  | stmt (.expression _ value) => [expr value]
  | stmt (.evaluate _ _ es) => es.map expr
  | stmt (.flow _ _ header body otherwise) =>
      header.map expr ++ body.map stmt ++ otherwise.map stmt
  | stmt (.guarded _ _ body handlers otherwise final) =>
      body.map stmt ++ handlers.map handler ++ otherwise.map stmt ++ final.map stmt
  | stmt (.branch _ subject cases) => expr subject :: cases.map arm
  | stmt (.importModules _ names) => names.map imported
  | stmt (.importFrom _ _ _ names) => names.map member
  | stmt (.globals ..) | stmt (.nonlocals ..) => []
  | handler (.mk _ type? _ body) => type?.toList.map expr ++ body.map stmt
  | arm (.mk p guard? body) => pattern p :: guard?.toList.map expr ++ body.map stmt
  | pattern (.mk _ _ expressions parts _) => expressions.map expr ++ parts.map pattern
  | expr (.name ..) | expr (.literal ..) => []
  | expr (.member _ object _ _) => [expr object]
  | expr (.subscript _ object index _) => [expr object, expr index]
  | expr (.starred _ value _) => [expr value]
  | expr (.sequence _ _ items _) => items.map expr
  | expr (.operation _ _ operands) => operands.map expr
  | expr (.walrus _ target value) => [expr target, expr value]
  | expr (.lambda _ ps defaults keywordDefaults body) =>
      ps.map (fun p => parameter { toParameterName := p }) ++ defaults.map expr ++
        keywordDefaults.map expr ++ [expr body]
  | expr (.comprehension _ _ results isAsync target iterable conditions further) =>
      results.map expr ++ clause (.mk isAsync target iterable conditions) :: further.map clause
  | clause (.mk _ target iterable conditions) =>
      expr target :: expr iterable :: conditions.map expr
  | parameter p => p.hint.toList.map expr
  | imported _ | member _ => []

theorem sizeOf_signature (s : Signature) :
    sizeOf s = 1 + sizeOf s.parameters + sizeOf s.defaults + sizeOf s.keywordDefaults := rfl

theorem sizeOf_parameter (p : Parameter) :
    sizeOf p = 1 + sizeOf p.toParameterName + sizeOf p.hint := rfl

theorem sizeOf_span_pos (s : Span) : 0 < sizeOf s := by
  cases s
  simp only [Span.mk.sizeOf_spec]
  omega

theorem sizeOf_le_of_mem_map {α : Type} [SizeOf α] {f : α → Node} {xs : List α} {c : Node}
    (more : Nat) (hf : ∀ x, sizeOf (f x) = sizeOf x + 1 + more) (h : c ∈ xs.map f) :
    sizeOf c ≤ sizeOf xs + more := by
  obtain ⟨x, hx, rfl⟩ := List.mem_map.mp h
  have hlt := List.sizeOf_lt_of_mem hx
  rw [hf]
  omega

theorem sizeOf_le_of_mem_toList {o : Option Expr} {c : Node} (h : c ∈ o.toList.map expr) :
    sizeOf c ≤ sizeOf o := by
  cases o with
  | none => cases h
  | some e =>
      rw [List.mem_singleton.mp h]
      simp

theorem sizeOf_lt_of_mem_children {n c : Node} (h : c ∈ n.children) : sizeOf c < sizeOf n := by
  have hexpr {xs : List Expr} : c ∈ xs.map expr → sizeOf c ≤ sizeOf xs :=
    sizeOf_le_of_mem_map 0 fun x => Nat.add_comm 1 (sizeOf x)
  have hstmt {xs : List Stmt} : c ∈ xs.map stmt → sizeOf c ≤ sizeOf xs :=
    sizeOf_le_of_mem_map 0 fun x => Nat.add_comm 1 (sizeOf x)
  have hoption {o : Option Expr} : c ∈ o.toList.map expr → sizeOf c ≤ sizeOf o :=
    sizeOf_le_of_mem_toList
  cases n with
  | stmt s =>
      have hparameter {xs : List Parameter} : c ∈ xs.map parameter → sizeOf c ≤ sizeOf xs :=
        sizeOf_le_of_mem_map 0 fun x => Nat.add_comm 1 (sizeOf x)
      have hhandler {xs : List Handler} : c ∈ xs.map handler → sizeOf c ≤ sizeOf xs :=
        sizeOf_le_of_mem_map 0 fun x => Nat.add_comm 1 (sizeOf x)
      have harm {xs : List Case} : c ∈ xs.map arm → sizeOf c ≤ sizeOf xs :=
        sizeOf_le_of_mem_map 0 fun x => Nat.add_comm 1 (sizeOf x)
      have himported {xs : List Alias} : c ∈ xs.map imported → sizeOf c ≤ sizeOf xs :=
        sizeOf_le_of_mem_map 0 fun x => Nat.add_comm 1 (sizeOf x)
      have hmember {xs : List Alias} : c ∈ xs.map member → sizeOf c ≤ sizeOf xs :=
        sizeOf_le_of_mem_map 0 fun x => Nat.add_comm 1 (sizeOf x)
      cases s <;> simp [children, -List.mem_map] at h ⊢ <;>
        grind [expr.sizeOf_spec, sizeOf_signature]
  | handler h' =>
      cases h'
      simp [children, -List.mem_map] at h ⊢
      grind
  | arm a =>
      cases a
      have hpattern {xs : List Pattern} : c ∈ xs.map pattern → sizeOf c ≤ sizeOf xs :=
        sizeOf_le_of_mem_map 0 fun x => Nat.add_comm 1 (sizeOf x)
      simp [children, -List.mem_map] at h ⊢
      grind [pattern.sizeOf_spec]
  | pattern p =>
      cases p
      have hpattern {xs : List Pattern} : c ∈ xs.map pattern → sizeOf c ≤ sizeOf xs :=
        sizeOf_le_of_mem_map 0 fun x => Nat.add_comm 1 (sizeOf x)
      simp [children, -List.mem_map] at h ⊢
      grind
  | expr e =>
      have hbare {ps : List ParameterName} :
          (c ∈ ps.map fun p => parameter { toParameterName := p }) → sizeOf c ≤ sizeOf ps + 2 :=
        sizeOf_le_of_mem_map 2 fun x => by simp; omega
      have hflag (b : Bool) : sizeOf b = 1 := by cases b <;> rfl
      have hclause {xs : List Clause} : c ∈ xs.map clause → sizeOf c ≤ sizeOf xs :=
        sizeOf_le_of_mem_map 0 fun x => Nat.add_comm 1 (sizeOf x)
      cases e <;> simp [children, -List.mem_map] at h ⊢ <;>
        grind [expr.sizeOf_spec, clause.sizeOf_spec, Clause.mk.sizeOf_spec, sizeOf_span_pos]
  | clause k =>
      cases k
      simp [children, -List.mem_map] at h ⊢
      grind [expr.sizeOf_spec]
  | parameter p =>
      simp [children, -List.mem_map] at h ⊢
      grind [sizeOf_parameter]
  | imported _ | member _ => cases h

/-- A node and all nodes below it. -/
def walk (n : Node) : List Node :=
  n :: n.children.attach.flatMap fun c => walk c.1
termination_by sizeOf n
decreasing_by exact sizeOf_lt_of_mem_children c.2

theorem walk_eq (n : Node) : n.walk = n :: n.children.flatMap walk := by
  rw [walk, List.flatMap_subtype (g := walk) fun _ _ => rfl, List.unattach_attach]

/-- Something holds of a node and of all nodes below it. -/
def Everywhere (P : Node → Prop) (n : Node) : Prop := ∀ k ∈ n.walk, P k

theorem Everywhere.here {P : Node → Prop} {n : Node} (h : Everywhere P n) : P n :=
  h n (by
    rw [walk_eq]
    exact List.mem_cons_self)

theorem Everywhere.below {P : Node → Prop} {n c : Node} (h : Everywhere P n)
    (hc : c ∈ n.children) : Everywhere P c := fun k hk =>
  h k (by
    rw [walk_eq]
    exact List.mem_cons_of_mem _ (List.mem_flatMap.mpr ⟨c, hc, hk⟩))

end Node

/-- All nodes of a module. -/
def Module.nodes (m : Module) : List Node := m.body.flatMap fun s => (Node.stmt s).walk

end Assay.Source

namespace Assay.Check

open Source

/-! ## Occurrences -/

/-- An occurrence of a name: where it stands, and whether the name is defined there. -/
structure Occurrence where
  name : String
  range : Range
  isDefinition : Bool
  deriving DecidableEq, Repr

/-- The occurrence that a use is about. -/
def SymbolUse.occurrence (u : SymbolUse) : Occurrence :=
  { name := u.name, range := u.range, isDefinition := u.isDefinition }

/-- The occurrence that a node is itself. Names are defined where they are assigned to or deleted,
by functions, classes, parameters, imports and handlers. -/
def occurrenceAt? (file : String) : Node → Option Occurrence
  | .expr (.name span id access) => some ⟨id, rangeOf file span, access ≠ .load⟩
  | .parameter p => some ⟨p.name, rangeOf file p.span, true⟩
  | .stmt (.function span isAsync name ..) =>
      some ⟨name, nameRange file span (if isAsync then "async def" else "def") name, true⟩
  | .stmt (.classDef span name ..) => some ⟨name, nameRange file span "class" name, true⟩
  | .imported a => some ⟨a.boundByImport, rangeOf file a.span, true⟩
  | .member a => if a.isStar then none else some ⟨a.boundByFrom, rangeOf file a.span, true⟩
  | .handler (.mk span _ (some name) _) => some ⟨name, rangeOf file span, true⟩
  | _ => none

/-- The occurrences in a module, node by node. -/
def occurrencesOf (file : String) (m : Module) : List Occurrence :=
  m.nodes.filterMap (occurrenceAt? file)

namespace Step

mutual

/-- The occurrences that a step records. -/
def occurrences : Step → List Occurrence
  | mention name range isDefinition _ => [⟨name, range, isDefinition⟩]
  | into _ _ _ inside => occurrencesAll inside

/-- The occurrences that steps record. -/
def occurrencesAll : List Step → List Occurrence
  | [] => []
  | s :: rest => occurrences s ++ occurrencesAll rest

end

@[simp] theorem occurrencesAll_append (first second : List Step) :
    occurrencesAll (first ++ second) = occurrencesAll first ++ occurrencesAll second := by
  induction first with
  | nil => rfl
  | cons s rest ih => rw [List.cons_append, occurrencesAll, ih, occurrencesAll, List.append_assoc]

@[simp] theorem occurrencesAll_singleton (s : Step) : occurrencesAll [s] = s.occurrences :=
  List.append_nil _

mutual

theorem occurrences_untraced : (s : Step) → s.untraced.occurrences = s.occurrences
  | mention .. => rfl
  | into _ _ _ inside => occurrencesAll_untracedAll inside

@[simp] theorem occurrencesAll_untracedAll : (steps : List Step) →
    occurrencesAll (untracedAll steps) = occurrencesAll steps
  | [] => rfl
  | s :: rest => by
      rw [untracedAll, occurrencesAll, occurrences_untraced s, occurrencesAll_untracedAll rest,
        occurrencesAll]

end

end Step

namespace Walk

theorem enter_recorded (w : Walk) (site : Site) (name : String) (line : Nat) :
    (w.enter site name line).2.recorded = w.recorded := by
  unfold enter
  dsimp only
  split <;> rfl

mutual

/-- A step records its occurrences, whatever scopes it finds. -/
theorem playStep_recorded (site : Site) : (s : Step) → (w : Walk) →
    (playStep site s w).recorded.map (·.occurrence) =
      s.occurrences.reverse ++ w.recorded.map (·.occurrence)
  | .mention .., _ => rfl
  | .into _ name line inside, w => by
      rw [playStep, Step.occurrences]
      dsimp only
      rw [play_recorded _ inside, enter_recorded]

theorem play_recorded (site : Site) : (steps : List Step) → (w : Walk) →
    (play site steps w).recorded.map (·.occurrence) =
      (Step.occurrencesAll steps).reverse ++ w.recorded.map (·.occurrence)
  | [], _ => rfl
  | s :: rest, w => by
      rw [play_cons, play_recorded site rest, playStep_recorded site s, Step.occurrencesAll,
        List.reverse_append, List.append_assoc]

end

end Walk

/-! ## Bags of occurrences -/

section Bags

variable (file : String)

/-- The occurrences at a node and below it, in any order. -/
def bag (n : Node) : Multiset Occurrence := ↑(n.walk.filterMap (occurrenceAt? file))

/-- The occurrences at nodes and below them. -/
def bags (ns : List Node) : Multiset Occurrence := (ns.map (bag file)).sum

@[simp] theorem bags_nil : bags file [] = 0 := rfl

@[simp] theorem bags_cons (n : Node) (ns : List Node) :
    bags file (n :: ns) = bag file n + bags file ns := by
  rw [bags, List.map_cons, List.sum_cons, bags]

@[simp] theorem bags_append (ns more : List Node) :
    bags file (ns ++ more) = bags file ns + bags file more := by
  rw [bags, List.map_append, List.sum_append, bags, bags]

theorem coe_filterMap_flatMap (ns : List Node) :
    (↑((ns.flatMap Node.walk).filterMap (occurrenceAt? file)) : Multiset Occurrence) =
      bags file ns := by
  induction ns with
  | nil => rfl
  | cons n ns ih =>
      rw [List.flatMap_cons, List.filterMap_append, ← Multiset.coe_add, ih, bags_cons, bag]

theorem bag_eq (n : Node) :
    bag file n = ↑(occurrenceAt? file n).toList + bags file n.children := by
  rw [bag, Node.walk_eq, ← coe_filterMap_flatMap, Multiset.coe_add]
  cases h : occurrenceAt? file n with
  | none => rw [List.filterMap_cons_none h, Option.toList_none, List.nil_append]
  | some o => rw [List.filterMap_cons_some h, Option.toList_some, List.singleton_append]

/-- The occurrences that steps record, in any order. -/
def bagOf (steps : List Step) : Multiset Occurrence := ↑(Step.occurrencesAll steps)

@[simp] theorem bagOf_nil : bagOf [] = 0 := rfl

@[simp] theorem bagOf_append (first second : List Step) :
    bagOf (first ++ second) = bagOf first + bagOf second := by
  rw [bagOf, Step.occurrencesAll_append, ← Multiset.coe_add, bagOf, bagOf]

@[simp] theorem bagOf_mention (name : String) (range : Range) (isDefinition : Bool)
    (scope : Option UseScope) (rest : List Step) :
    bagOf (.mention name range isDefinition scope :: rest) =
      {⟨name, range, isDefinition⟩} + bagOf rest := rfl

@[simp] theorem bagOf_into (table : Option Nat) (name : String) (line : Nat) (inside : List Step) :
    bagOf [.into table name line inside] = bagOf inside := by
  rw [bagOf, Step.occurrencesAll_singleton, Step.occurrences, bagOf]

theorem bagOf_ofHints (evaluated : Bool) (n : Nat) (steps : Nat → List Step)
    (b : Multiset Occurrence) (h : ∀ n, bagOf (steps n) = b) :
    bagOf (Step.ofHints evaluated n steps) = b := by
  unfold Step.ofHints
  split
  · exact h n
  · rw [bagOf, Step.occurrencesAll_untracedAll]
    exact h _

end Bags

section Steps

variable (file : String)

theorem bagOf_ofParameters (ps : List ParameterName) :
    bagOf (Step.ofParameters file ps) =
      bags file (ps.map fun p => .parameter { toParameterName := p }) := by
  induction ps with
  | nil => rfl
  | cons p ps ih =>
      rw [List.map_cons, bags_cons, ← ih, bag_eq]
      rfl

mutual

theorem bagOf_ofExpr : (e : Expr) → (n : Nat) →
    bagOf (Step.ofExpr file n e) = bag file (.expr e)
  | .name .., _ => by
      rw [bag_eq]
      rfl
  | .literal .., _ => by
      rw [bag_eq]
      rfl
  | .member _ object _ _, n => by
      rw [bag_eq, Step.ofExpr, bagOf_ofExpr object]
      simp [occurrenceAt?, Node.children]
  | .subscript _ object index _, n => by
      rw [bag_eq, Step.ofExpr, bagOf_append, bagOf_ofExpr object, bagOf_ofExpr index]
      simp [occurrenceAt?, Node.children]
  | .starred _ value _, n => by
      rw [bag_eq, Step.ofExpr, bagOf_ofExpr value]
      simp [occurrenceAt?, Node.children]
  | .sequence _ _ items _, n => by
      rw [bag_eq, Step.ofExpr, bagOf_ofExprs items]
      simp [occurrenceAt?, Node.children]
  | .operation _ _ operands, n => by
      rw [bag_eq, Step.ofExpr, bagOf_ofExprs operands]
      simp [occurrenceAt?, Node.children]
  | .walrus _ target value, n => by
      rw [bag_eq, Step.ofExpr, bagOf_append, bagOf_ofExpr target, bagOf_ofExpr value]
      simp [occurrenceAt?, Node.children]
  | .lambda span ps defaults keywordDefaults body, n => by
      rw [bag_eq, Step.ofExpr]
      simp only [bagOf_append, bagOf_into, bagOf_ofExprs defaults, bagOf_ofExprs keywordDefaults,
        bagOf_ofParameters, bagOf_ofExpr body]
      simp [occurrenceAt?, Node.children]
      abel
  | .comprehension span kind results isAsync target iterable conditions further, n => by
      rw [bag_eq, Step.ofExpr]
      simp only [bagOf_append, bagOf_into, bagOf_ofExpr iterable, bagOf_ofExpr target,
        bagOf_ofExprs conditions, bagOf_ofClauses further, bagOf_ofResults results]
      simp [occurrenceAt?, Node.children, bag_eq file (.clause _)]
      abel

theorem bagOf_ofExprs : (es : List Expr) → (n : Nat) →
    bagOf (Step.ofExprs file n es) = bags file (es.map .expr)
  | [], _ => rfl
  | e :: es, n => by
      rw [Step.ofExprs, bagOf_append, bagOf_ofExpr e, bagOf_ofExprs es, List.map_cons, bags_cons]

theorem bagOf_ofResults : (es : List Expr) → (n : Nat) →
    bagOf (Step.ofResults file n es) = bags file (es.map .expr)
  | [], _ => rfl
  | e :: es, n => by
      rw [Step.ofResults, bagOf_append, bagOf_ofExpr e, bagOf_ofResults es, List.map_cons,
        bags_cons]

theorem bagOf_ofClauses : (cs : List Clause) → (n : Nat) →
    bagOf (Step.ofClauses file n cs) = bags file (cs.map .clause)
  | [], _ => rfl
  | .mk isAsync target iterable conditions :: rest, n => by
      rw [Step.ofClauses]
      simp only [bagOf_append, bagOf_ofExpr target, bagOf_ofExpr iterable, bagOf_ofExprs conditions,
        bagOf_ofClauses rest]
      simp [occurrenceAt?, Node.children, bag_eq file (.clause _)]
      abel

end

mutual

theorem bagOf_ofPattern : (p : Pattern) → (n : Nat) →
    bagOf (Step.ofPattern file n p) = bag file (.pattern p)
  | .mk _ _ expressions parts _, n => by
      rw [bag_eq, Step.ofPattern, bagOf_append, bagOf_ofExprs, bagOf_ofPatterns parts]
      simp [occurrenceAt?, Node.children]

theorem bagOf_ofPatterns : (ps : List Pattern) → (n : Nat) →
    bagOf (Step.ofPatterns file n ps) = bags file (ps.map .pattern)
  | [], _ => rfl
  | p :: ps, n => by
      rw [Step.ofPatterns, bagOf_append, bagOf_ofPattern p, bagOf_ofPatterns ps, List.map_cons,
        bags_cons]

end

theorem bagOf_ofSignature (s : Signature) (n : Nat) :
    bagOf (Step.ofSignature file s n) = bags file (s.hints.map .expr) := by
  simp only [Step.ofSignature, Signature.hints, bagOf_append, bagOf_ofExprs, List.map_append,
    bags_append]
  abel

/-- Each hint of a signature belongs to a parameter in one of the five roles. -/
theorem bags_parameters (s : Signature) :
    bags file (s.parameters.map .parameter) =
      bags file (s.parameters.map fun p => .parameter { toParameterName := p.toParameterName }) +
        bags file (s.hints.map .expr) := by
  unfold Signature.hints Collect.hintsOf
  induction s.parameters with
  | nil => simp
  | cons p ps ih =>
      have hparameter : bag file (.parameter p) =
          bag file (.parameter { toParameterName := p.toParameterName }) +
            bags file (p.hint.toList.map .expr) := by
        rw [bag_eq, bag_eq file (.parameter _)]
        simp [occurrenceAt?, Node.children]
      rw [List.map_cons, List.map_cons, bags_cons, bags_cons, ih, hparameter]
      cases hhint : p.hint <;> cases hrole : p.role <;> simp [hhint, hrole] <;> abel

theorem bagOf_ofImports (names : List Alias) :
    bagOf (Step.ofAliases file Alias.boundByImport names) = bags file (names.map .imported) := by
  induction names with
  | nil => rfl
  | cons a names ih =>
      rw [List.map_cons, bags_cons, ← ih, bag_eq]
      rfl

theorem bagOf_ofMembers (names : List Alias) :
    bagOf (Step.ofAliases file Alias.boundByFrom (names.filter fun a => !a.isStar)) =
      bags file (names.map .member) := by
  induction names with
  | nil => rfl
  | cons a names ih =>
      rw [List.map_cons, bags_cons, ← ih, bag_eq]
      cases hstar : a.isStar with
      | true => simp [occurrenceAt?, Node.children, hstar]
      | false =>
          rw [List.filter_cons_of_pos (by simp [hstar]), occurrenceAt?, hstar]
          rfl

variable (evaluated : Bool)

theorem bagOf_ofReturns (returns : Option Expr) (n : Nat) :
    bagOf (Step.ofReturns file evaluated n returns) = bags file (returns.toList.map .expr) := by
  cases returns with
  | none => rfl
  | some hint =>
      rw [Step.ofReturns, bagOf_ofHints _ _ _ _ (bagOf_ofExpr file hint)]
      simp

mutual

theorem bagOf_ofStmt : (s : Stmt) → (n : Nat) →
    bagOf (Step.ofStmt file evaluated n s) = bag file (.stmt s)
  | .function span isAsync name signature returns decorators body, n => by
      rw [bag_eq, Step.ofStmt]
      simp only [bagOf_mention, bagOf_append, bagOf_into, bagOf_ofExprs, bagOf_ofStmts body,
        bagOf_ofHints _ _ _ _ (bagOf_ofSignature file signature), bagOf_ofReturns,
        bagOf_ofParameters, Node.children, bags_append, bags_parameters]
      simp [occurrenceAt?, Function.comp_def]
      abel
  | .classDef span name bases keywords decorators body, n => by
      rw [bag_eq, Step.ofStmt]
      simp only [bagOf_mention, bagOf_append, bagOf_into, bagOf_ofExprs, bagOf_ofStmts body]
      simp [occurrenceAt?, Node.children]
      abel
  | .assign _ targets value, n => by
      rw [bag_eq, Step.ofStmt, bagOf_append, bagOf_ofExprs, bagOf_ofExpr]
      simp [occurrenceAt?, Node.children]
  | .annotate _ target hint value _, n => by
      rw [bag_eq, Step.ofStmt, bagOf_append, bagOf_append, bagOf_ofExpr, bagOf_ofExprs,
        bagOf_ofHints _ _ _ _ (bagOf_ofExpr file hint)]
      simp [occurrenceAt?, Node.children, add_assoc]
  | .expression _ value, n => by
      rw [bag_eq, Step.ofStmt, bagOf_ofExpr]
      simp [occurrenceAt?, Node.children]
  | .evaluate _ _ es, n => by
      rw [bag_eq, Step.ofStmt, bagOf_ofExprs]
      simp [occurrenceAt?, Node.children]
  | .flow _ _ header body otherwise, n => by
      rw [bag_eq, Step.ofStmt, bagOf_append, bagOf_append, bagOf_ofExprs, bagOf_ofStmts body,
        bagOf_ofStmts otherwise]
      simp [occurrenceAt?, Node.children, add_assoc]
  | .guarded _ _ body handlers otherwise final, n => by
      rw [bag_eq, Step.ofStmt, bagOf_append, bagOf_append, bagOf_append, bagOf_ofStmts body,
        bagOf_ofHandlers handlers, bagOf_ofStmts otherwise, bagOf_ofStmts final]
      simp [occurrenceAt?, Node.children, add_assoc]
  | .branch _ subject cases, n => by
      rw [bag_eq, Step.ofStmt, bagOf_append, bagOf_ofExpr, bagOf_ofCases cases]
      simp [occurrenceAt?, Node.children]
  | .importModules _ names, n => by
      rw [bag_eq, Step.ofStmt, bagOf_ofImports]
      simp [occurrenceAt?, Node.children]
  | .importFrom _ _ _ names, n => by
      rw [bag_eq, Step.ofStmt, bagOf_ofMembers]
      simp [occurrenceAt?, Node.children]
  | .globals .., _ | .nonlocals .., _ => by
      rw [bag_eq]
      rfl

theorem bagOf_ofStmts : (ss : List Stmt) → (n : Nat) →
    bagOf (Step.ofStmts file evaluated n ss) = bags file (ss.map .stmt)
  | [], _ => rfl
  | s :: rest, n => by
      rw [Step.ofStmts, bagOf_append, bagOf_ofStmt s, bagOf_ofStmts rest, List.map_cons, bags_cons]

theorem bagOf_ofHandlers : (hs : List Handler) → (n : Nat) →
    bagOf (Step.ofHandlers file evaluated n hs) = bags file (hs.map .handler)
  | [], _ => rfl
  | .mk span type? bound body :: rest, n => by
      rw [Step.ofHandlers, bagOf_append, bagOf_append, bagOf_append, bagOf_ofExprs,
        bagOf_ofStmts body, bagOf_ofHandlers rest, List.map_cons, bags_cons,
        bag_eq file (.handler _)]
      cases bound <;> simp [Step.ofBound, occurrenceAt?, Node.children, add_assoc]

theorem bagOf_ofCases : (cs : List Case) → (n : Nat) →
    bagOf (Step.ofCases file evaluated n cs) = bags file (cs.map .arm)
  | [], _ => rfl
  | .mk p guard? body :: rest, n => by
      rw [Step.ofCases, bagOf_append, bagOf_append, bagOf_append, bagOf_ofPattern, bagOf_ofExprs,
        bagOf_ofStmts body, bagOf_ofCases rest, List.map_cons, bags_cons, bag_eq file (.arm _)]
      simp [occurrenceAt?, Node.children, add_assoc]

end

theorem bagOf_ofModule (evaluated : Bool) (m : Module) :
    bagOf (Step.ofModule file evaluated m) = ↑(occurrencesOf file m) := by
  rw [Step.ofModule, bagOf_ofStmts, occurrencesOf, Module.nodes, ← List.flatMap_map,
    coe_filterMap_flatMap]

end Steps

/-- The uses of a module record the occurrences of its steps. -/
theorem usesOf_map_occurrence (evaluated : Bool) (file : String) (top : Scope) (m : Module) :
    (usesOf file top m).map (·.occurrence) =
      Step.occurrencesAll (Step.ofModule file evaluated m) := by
  rw [usesOf_eq_play evaluated, List.map_reverse, Walk.play_recorded, List.map_nil, List.append_nil,
    List.reverse_reverse]

/-- No occurrence of a name in a module is lost, and none is recorded twice: whatever the scopes
are, the uses are those that one finds by going through all nodes of the tree once. -/
theorem usesOf_perm_occurrencesOf (file : String) (top : Scope) (m : Module) :
    ((usesOf file top m).map (·.occurrence)).Perm (occurrencesOf file m) := by
  rw [usesOf_map_occurrence true]
  exact Multiset.coe_eq_coe.mp (bagOf_ofModule file true m)

end Assay.Check
