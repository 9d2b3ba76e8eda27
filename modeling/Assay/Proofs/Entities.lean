import Assay.Proofs.CollectedScopes
import Assay.Proofs.DeclarationOrder

/-! # Entities, declarations and imports

The entities of a module, the declarations at its top and the uses that imports define come from
three ways through the module. They agree: entities that are not imported are the declarations at
the top, and the others are what is recorded while the imports are visited.
-/

namespace Assay.Check

open Source

/-- What an entity is. -/
def Entity.heading (e : Entity) : Heading := ⟨e.name, e.kind, e.range⟩

/-! ## Imports -/

/-- Whether a statement imports. -/
def isImport : Stmt → Bool
  | .importModules .. | .importFrom .. => true
  | _ => false

/-- The names that an import binds, where they are imported. A star has no name; it is only written
behind `from`. -/
def importedNames : Stmt → List PlacedName
  | .importModules _ names => names.map fun a => ⟨a.boundByImport, a.span⟩
  | .importFrom _ _ _ names =>
      (names.filter fun a => !a.isStar).map fun a => ⟨a.boundByFrom, a.span⟩
  | _ => []

theorem importedNames_eq_nil {s : Stmt} (h : isImport s = false) : importedNames s = [] := by
  cases s with
  | importModules | importFrom => cases h
  | _ => rfl

/-- The use that defines a name that is imported. -/
def importUse (file : String) (n : PlacedName) : SymbolUse :=
  { name := n.name, file, range := rangeOf file n.span, scope := .imported, isDefinition := true }

namespace Walk

mutual

/-- What is recorded stays recorded. -/
theorem recorded_suffix_playStep (site : Site) : (s : Step) → (w : Walk) →
    w.recorded <:+ (playStep site s w).recorded
  | .mention .., w => List.suffix_cons _ w.recorded
  | .into _ name line inside, w => by
      rw [playStep, ← enter_recorded w site name line]
      exact recorded_suffix_play _ inside _

theorem recorded_suffix_play (site : Site) : (steps : List Step) → (w : Walk) →
    w.recorded <:+ (play site steps w).recorded
  | [], _ => List.suffix_rfl
  | s :: rest, w =>
      (recorded_suffix_playStep site s w).trans (recorded_suffix_play site rest _)

end

/-- What is recorded behind a walk that goes on from another one, in the order of the walk. -/
def since (w v : Walk) : List SymbolUse :=
  (v.recorded.take (v.recorded.length - w.recorded.length)).reverse

theorem since_eq {w v : Walk} {uses : List SymbolUse}
    (h : v.recorded = uses.reverse ++ w.recorded) : w.since v = uses := by
  simp [since, h]

theorem since_append {w v : Walk} (h : w.recorded <:+ v.recorded) :
    v.recorded = (w.since v).reverse ++ w.recorded := by
  obtain ⟨more, hmore⟩ := h
  simp [since, ← hmore]

/-- The statements of a body, each with what is recorded while it is visited. -/
def visits (site : Site) : List Stmt → Walk → List (Stmt × List SymbolUse)
  | [], _ => []
  | s :: rest, w => (s, w.since (stmt site s w)) :: visits site rest (stmt site s w)

theorem map_visits (site : Site) (body : List Stmt) (w : Walk) :
    (visits site body w).map Prod.fst = body := by
  induction body generalizing w with
  | nil => rfl
  | cons s rest ih => rw [visits, List.map_cons, ih]

/-- What is recorded of a body is what is recorded of its statements. -/
theorem recorded_stmts (site : Site) (body : List Stmt) (w : Walk) :
    (stmts site body w).recorded =
      ((visits site body w).flatMap Prod.snd).reverse ++ w.recorded := by
  induction body generalizing w with
  | nil => rfl
  | cons s rest ih =>
      have hsuffix : w.recorded <:+ (stmt site s w).recorded := by
        rw [stmt_eq_play true site s 1 w]
        exact recorded_suffix_play site _ w
      rw [stmts, ih, visits, List.flatMap_cons, List.reverse_append, List.append_assoc,
        ← since_append hsuffix]

theorem imports_recorded (site : Site) (bound : Alias → String) (names : List Alias) (w : Walk) :
    (imports site bound names w).recorded =
      (names.map fun a => importUse site.file ⟨bound a, a.span⟩).reverse ++ w.recorded := by
  induction names generalizing w with
  | nil => rfl
  | cons a names ih =>
      rw [List.map_cons, List.reverse_cons, List.append_assoc]
      exact ih _

/-- While an import is visited, the names that it binds are recorded. -/
theorem since_import (site : Site) {s : Stmt} (h : isImport s) (w : Walk) :
    w.since (stmt site s w) = (importedNames s).map (importUse site.file) := by
  refine since_eq ?_
  cases s with
  | importModules _ names =>
      rw [importedNames, List.map_map]
      exact imports_recorded site _ names w
  | importFrom _ _ _ names =>
      rw [importedNames, List.map_map]
      exact imports_recorded site _ _ w
  | _ => cases h

theorem visits_import (site : Site) (body : List Stmt) (w : Walk) :
    ∀ v ∈ visits site body w, isImport v.1 →
      v.2 = (importedNames v.1).map (importUse site.file) := by
  induction body generalizing w with
  | nil => exact fun v hv => absurd hv List.not_mem_nil
  | cons s rest ih =>
      intro v hv himport
      rcases List.mem_cons.mp hv with rfl | hv
      · exact since_import site himport w
      · exact ih _ v hv himport

/-- What is recorded of all imports of a body. -/
theorem uses_of_imports (site : Site) (body : List Stmt) (w : Walk) :
    ((visits site body w).filter fun v => isImport v.1).flatMap Prod.snd =
      (body.flatMap importedNames).map (importUse site.file) := by
  induction body generalizing w with
  | nil => rfl
  | cons s rest ih =>
      rw [visits, List.flatMap_cons, List.map_append, ← ih (stmt site s w)]
      cases himport : isImport s with
      | true =>
          rw [List.filter_cons_of_pos (by exact himport), List.flatMap_cons,
            since_import site himport]
      | false =>
          rw [List.filter_cons_of_neg (by simp [himport]), importedNames_eq_nil himport]
          rfl

end Walk

/-! ## Entities -/

/-- The kind of entities that a statement makes. -/
def kindOf? : Stmt → Option EntityKind
  | .function .. => some .function
  | .classDef .. => some .classDef
  | .assign .. | .annotate .. => some .variable
  | .importModules .. | .importFrom .. => some .imported
  | _ => none

section

variable (file : String) (exported : Option (List String))

theorem kind_of_mem {s : Stmt} {e : Entity} (h : e ∈ entitiesOfStmt file exported s) :
    kindOf? s = some e.kind := by
  cases s with
  | function | classDef =>
      rw [List.mem_singleton.mp h]
      rfl
  | assign | annotate | importModules | importFrom =>
      obtain ⟨_, -, rfl⟩ := List.mem_map.mp h
      rfl
  | _ => cases h

/-- A statement makes entities of one kind, so all of them are kept or none. -/
theorem filter_entitiesOfStmt (keep : EntityKind → Bool) (s : Stmt) :
    (entitiesOfStmt file exported s).filter (fun e => keep e.kind) =
      if (kindOf? s).any keep then entitiesOfStmt file exported s else [] := by
  have hkind : ∀ e ∈ entitiesOfStmt file exported s, (kindOf? s).any keep = keep e.kind := by
    intro e he
    rw [kind_of_mem file exported he, Option.any_some]
  split
  next h => exact List.filter_eq_self.mpr fun e he => (hkind e he).symm.trans h
  next h => exact List.filter_eq_nil_iff.mpr fun e he => (hkind e he) ▸ h

/-- What a statement at the top of a module declares. -/
theorem headings_declarationsOfStmt (s : Stmt) :
    (declarationsOfStmt file false s).map Declaration.heading =
      (definition? file s).toList ++ variablesOf file s := by
  cases s with
  | assign | annotate =>
      rw [declarationsOfStmt, if_neg Bool.false_ne_true]
      exact List.map_map
  | _ => rfl

/-- The entities of a statement that are not imported are what it declares. -/
theorem headings_entitiesOfStmt (s : Stmt) :
    ((entitiesOfStmt file exported s).filter fun e => e.kind ≠ .imported).map Entity.heading =
      (definition? file s).toList ++ variablesOf file s := by
  rw [filter_entitiesOfStmt file exported (· ≠ .imported)]
  cases s with
  | assign | annotate => exact List.map_map
  | _ => rfl

/-- The entities of a statement that are imported are the names that it imports. -/
theorem imported_entitiesOfStmt (s : Stmt) :
    ((entitiesOfStmt file exported s).filter fun e => e.kind = .imported).map
        (fun e => (e.name, e.range)) =
      (importedNames s).map fun n => (n.name, rangeOf file n.span) := by
  rw [filter_entitiesOfStmt file exported (· = .imported)]
  cases s with
  | importModules | importFrom =>
      rw [importedNames, List.map_map]
      exact List.map_map
  | _ => rfl

end

theorem declarationsOf_eq (file : String) (inFunction : Bool) (body : List Stmt) :
    declarationsOf file inFunction body = body.flatMap (declarationsOfStmt file inFunction) := by
  induction body with
  | nil => rfl
  | cons s rest ih => rw [declarationsOf, ih, List.flatMap_cons]

/-- The entities of a checked file are those of its module. -/
theorem entities_of_checkFile {p : ParseResults} {m : Module} {c : CheckResults}
    (hm : p.tree = some m) (hc : (checkFile p).value = some c) :
    c.entities = entitiesOf p.file m := by
  rw [checkFile, hm] at hc
  dsimp only at hc
  split at hc <;> cases hc
  rfl

theorem declarationTree_of_tree {p : ParseResults} {m : Module} (hm : p.tree = some m) :
    declarationTree p =
      some { file := p.file, declarations := declarationsOf p.file false m.body } := by
  rw [declarationTree, hm, Option.map_some]

/-- The statements of a module, each with the uses that are recorded while it is visited. -/
def visitsOf (file : String) (top : Scope) (m : Module) : List (Stmt × List SymbolUse) :=
  Walk.visits { file, top } m.body {}

/-- What a checked file and its declarations say alike. -/
structure EntitiesAgree (file : String) (m : Module) (c : CheckResults) (t : DeclarationTree) :
    Prop where
  /-- Entities that are not imported are the declarations at the top, in order. -/
  declared : (c.entities.filter fun e => e.kind ≠ .imported).map Entity.heading =
    t.declarations.map Declaration.heading
  /-- Uses are recorded statement by statement. -/
  visited : (visitsOf file c.scopes m).map Prod.fst = m.body
  uses : c.uses = (visitsOf file c.scopes m).flatMap Prod.snd
  /-- Those of an import define the names that it binds, each once. -/
  imports : ∀ v ∈ visitsOf file c.scopes m, isImport v.1 →
    v.2 = (importedNames v.1).map (importUse file)
  /-- The other entities are the uses of all imports, in order. -/
  imported : (c.entities.filter fun e => e.kind = .imported).map (fun e => (e.name, e.range)) =
    (((visitsOf file c.scopes m).filter fun v => isImport v.1).flatMap Prod.snd).map
      fun u => (u.name, u.range)

/-- The entities of a checked file are the declarations at its top and what its imports define. -/
theorem checkFile_entities {file source : String} {m : Module} {c : CheckResults}
    (hm : (parseFile file source).tree = some m)
    (hc : (checkFile (parseFile file source)).value = some c) :
    ∃ t, declarationTree (parseFile file source) = some t ∧ EntitiesAgree file m c t := by
  have hentities := entities_of_checkFile hm hc
  rw [parseFile_file] at hentities
  obtain ⟨-, huses⟩ := ofModule_of_checkFile hm hc
  have htree := declarationTree_of_tree hm
  rw [parseFile_file] at htree
  refine ⟨_, htree, ?declared, Walk.map_visits .., ?uses, Walk.visits_import _ m.body _, ?imported⟩
  case declared =>
    rw [hentities, declarationsOf_eq, entitiesOf, List.filter_flatMap, List.map_flatMap,
      List.map_flatMap]
    simp only [headings_entitiesOfStmt, headings_declarationsOfStmt]
  case uses =>
    rw [huses, usesOf, Walk.recorded_stmts, List.append_nil, List.reverse_reverse, visitsOf]
  case imported =>
    rw [visitsOf, Walk.uses_of_imports, hentities, entitiesOf, List.filter_flatMap,
      List.map_flatMap, List.map_map, List.map_flatMap]
    simp only [imported_entitiesOfStmt]
    rfl

/-- Imports with and without other names, one of them in a function, beside an assignment. -/
theorem checkFile_entities_mixed :
    let source := "import a.b as c, d.e\nfrom . import *\nf = 1\ndef g(): import h\n"
    ∃ m c t, (parseFile "m.py" source).tree = some m ∧
      (checkFile (parseFile "m.py" source)).value = some c ∧
      declarationTree (parseFile "m.py" source) = some t ∧
      c.entities.map (·.name) = ["c", "d", "f", "g"] ∧ EntitiesAgree "m.py" m c t := by
  have hrun : (fun source => (parseFile "m.py" source).tree.any fun _ =>
      (checkFile (parseFile "m.py" source)).value.any fun c =>
        c.entities.map (·.name) = ["c", "d", "f", "g"])
      "import a.b as c, d.e\nfrom . import *\nf = 1\ndef g(): import h\n" = true := by
    decide +kernel
  obtain ⟨m, hm, hrun⟩ := (Option.any_eq_true _ _).mp hrun
  obtain ⟨c, hc, hrun⟩ := (Option.any_eq_true _ _).mp hrun
  obtain ⟨t, ht, hagree⟩ := checkFile_entities hm hc
  exact ⟨m, c, t, hm, hc, ht, of_decide_eq_true hrun, hagree⟩

end Assay.Check
