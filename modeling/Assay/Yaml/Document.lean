import Assay.Text.Base64
import Assay.Yaml.Node
import Assay.Yaml.Scalar

/-!
# YAML documents

The value of a document. Keys must not be collections; of equal keys the last value counts. The key
`<<` merges the entries of other mappings, which the mapping's own entries take precedence over.

A document is worked out level by level: first the root, then what it holds, then what that holds in
turn. `checkLevel` finds the faults of one level, and the fault of a document is the first fault of
its first level that has one.
-/

namespace Assay.Yaml

/-- The start of the tags that every document knows. -/
def tagStart : String := "tag:yaml.org,2002:"

/-- A scalar whose value can fail. -/
def orFailed (v : Except Failure Value) : Except Fault Value :=
  match v with
  | .ok v => .ok v
  | .error f => .error (.failed f)

/-- The value of a scalar. -/
def scalarValue (tag : Option String) (plain : Bool) (text : String) : Except Fault Value :=
  let implicit := tag.isNone || tag == some "!"
  if implicit then
    if !plain then .ok (.text text)
    else if ["=", "<<"].contains (withoutEnd text) then .error .invalid
    else orFailed (plainValue text)
  else
    let is (name : String) : Bool := tag == some (tagStart ++ name)
    if is "str" then .ok (.text text)
    else if is "null" then .ok .none
    else if is "bool" then orFailed (.bool <$> truthOf text)
    else if is "int" then orFailed (.int <$> wholeOf text)
    else if is "float" then orFailed (.float <$> floatingOf text)
    else if is "binary" then
      match if text.toList.all (·.toNat < 128) then Text.Base64.decode? text else none with
      | some bytes => .ok (.bytes bytes)
      | none => .error .invalid
    else if is "timestamp" then
      match moment? false text with
      | some m => orFailed m.toValue
      | none => .error (.failed
          (.of "AttributeError" "'NoneType' object has no attribute 'groupdict'"))
    else .error .invalid

/-- The tags that a scalar can have. -/
def scalarTags : List String :=
  ["str", "null", "bool", "int", "float", "binary", "timestamp"].map (tagStart ++ ·)

/-- Whether a node is the key of the value that stands for its mapping. -/
def isValueKey : Node → Bool
  | .scalar tag plain text =>
      tag == some (tagStart ++ "value") || ((tag.isNone || tag == some "!") && plain && withoutEnd text = "=")
  | _ => false

mutual

/-- The text of a node that is read as a scalar: that of a mapping is the one of its value. -/
def scalarText? : Node → Option String
  | .scalar _ _ text => some text
  | .mapping _ entries => valueText? entries
  | _ => none

/-- The text of the first entry that holds the value of its mapping. -/
def valueText? : List (Node × Node) → Option String
  | [] => none
  | (k, v) :: rest => if isValueKey k then scalarText? v else valueText? rest

end

/-- The value of a mapping that is read as a scalar. A moment is only read from a scalar itself. -/
def mappingAsScalar (tag : Option String) (entries : List (Node × Node)) : Except Fault Value :=
  match valueText? entries with
  | none => .error .invalid
  | some text =>
      if tag == some (tagStart ++ "timestamp") then
        .error (.failed (.type "expected string or bytes-like object, got 'list'"))
      else scalarValue tag false text

/-- Whether a tag is the one of its kind of collection. -/
def fits (tag : Option String) (name : String) : Bool :=
  tag.isNone || tag == some "!" || tag == some (tagStart ++ name)

/-- Whether a node is the key that merges. -/
def isMerge : Node → Bool
  | .scalar tag plain text =>
      (tag == some (tagStart ++ "merge")) || ((tag.isNone || tag == some "!") && plain && withoutEnd text = "<<")
  | _ => false

/-- The tags of sequences that list the entries of a mapping. -/
def pairTags : List String := [tagStart ++ "omap", tagStart ++ "pairs"]

/-- Entries without those that a later one has the key of. -/
def distinct (entries : List (Value × Value)) : List (Value × Value) :=
  entries.foldl (fun done e => Value.setEntry e.1 e.2 done) []

/-! ## Faults -/

/-- Whether a tag is that of a kind of collection that is filled later. -/
def isFilledLater (tag : Option String) : Bool :=
  ["seq", "map", "set"].any (fits tag) || pairTags.any fun t => tag == some t

/-- Whether a node can be a key: it is no collection. -/
def canBeKey : Node → Bool
  | .scalar .. => true
  | .mapping tag _ => scalarTags.any fun t => tag == some t
  | _ => false

mutual

/-- Whether what the merging keys of entries name can be merged. -/
def canMerge : List (Node × Node) → Bool
  | [] => true
  | (k, v) :: rest => (!isMerge k || isMergeable v) && canMerge rest

/-- Whether a node can be merged. -/
def isMergeable : Node → Bool
  | .enclosing .. => true
  | .mapping _ entries => canMerge entries
  | .sequence _ items => areMergeable items
  | .scalar .. => false

/-- Whether the items of a sequence can be merged. -/
def areMergeable : List Node → Bool
  | [] => true
  | .enclosing isSequence _ :: rest => !isSequence && areMergeable rest
  | .mapping _ entries :: rest => canMerge entries && areMergeable rest
  | _ :: _ => false

end

/-- The text of a key that stands for the value of its mapping is itself; other scalars have their
values. -/
def keyValue (tag : Option String) (plain : Bool) (text : String) : Except Fault Value :=
  if isValueKey (.scalar tag plain text) then .ok (.text text) else scalarValue tag plain text

mutual

/-- Work out what a node holds some levels below it. -/
def checkLevel : Nat → Node → Except Fault Unit
  | 0, .scalar tag plain text => discard (scalarValue tag plain text)
  | 0, .sequence tag _ => if isFilledLater tag then return () else throw .invalid
  | 0, .mapping tag entries =>
      if scalarTags.any fun t => tag == some t then discard (mappingAsScalar tag entries)
      else if isFilledLater tag then return ()
      else throw .invalid
  | level + 1, .sequence tag items =>
      if pairTags.any fun t => tag == some t then checkPairs level items
      else if fits tag "seq" then checkItems level items
      else throw .invalid
  | level + 1, .mapping tag entries => do
      if scalarTags.any fun t => tag == some t then return ()
      if !fits tag "map" && !fits tag "set" then throw .invalid
      if !canMerge entries then throw .invalid
      checkMerged level entries
      checkOwn level entries
  | _, _ => return ()

/-- Work out a level of the items of a sequence. -/
def checkItems (level : Nat) : List Node → Except Fault Unit
  | [] => return ()
  | n :: ns => do
      checkLevel level n
      checkItems level ns

/-- Work out a level of the pairs of a sequence. -/
def checkPairs (level : Nat) : List Node → Except Fault Unit
  | [] => return ()
  | .mapping _ [(k, v)] :: ns => do
      checkLevel level k
      checkLevel level v
      checkPairs level ns
  | _ :: _ => throw .invalid

/-- Work out a level of the entries that a mapping has of its own. -/
def checkOwn (level : Nat) : List (Node × Node) → Except Fault Unit
  | [] => return ()
  | (k, v) :: rest => do
      if isMerge k then checkOwn level rest
      else
        match k with
        | .scalar tag plain text => discard (keyValue tag plain text)
        | k => if canBeKey k then checkLevel 0 k else throw .invalid
        checkLevel level v
        checkOwn level rest

/-- Work out a level of the entries that a mapping merges. -/
def checkMerged (level : Nat) : List (Node × Node) → Except Fault Unit
  | [] => return ()
  | (k, v) :: rest => do
      if isMerge k then checkMergedBy level v
      checkMerged level rest

/-- Work out a level of the entries that a merged node brings in. -/
def checkMergedBy (level : Nat) : Node → Except Fault Unit
  | .mapping _ entries => do
      checkMerged level entries
      checkOwn level entries
  | .sequence _ items => checkMergedByAll level items
  | _ => return ()

/-- Work out a level of the entries that several nodes bring in; those of the last come first. -/
def checkMergedByAll (level : Nat) : List Node → Except Fault Unit
  | [] => return ()
  | n :: ns => do
      checkMergedByAll level ns
      checkMergedBy level n

end

mutual

/-- How many levels there are below a node. -/
def levels : Node → Nat
  | .sequence _ items => levelsOfItems items + 1
  | .mapping _ entries => levelsOfEntries entries + 1
  | _ => 0

/-- The most levels below some nodes. -/
def levelsOfItems : List Node → Nat
  | [] => 0
  | n :: ns => max (levels n) (levelsOfItems ns)

/-- The most levels below the keys and values of entries. -/
def levelsOfEntries : List (Node × Node) → Nat
  | [] => 0
  | (k, v) :: rest => max (max (levels k) (levels v)) (levelsOfEntries rest)

end

/-- Work out a document level by level. -/
def check (root : Node) : Except Fault Unit :=
  (List.range (levels root + 1)).forM fun level => checkLevel level root

/-! ## Values -/

/-- The mark of a collection inside itself. -/
def markOf (isSequence : Bool) : Value :=
  if isSequence then .thing "list" "[...]" "[...]"
  else .thing "dict" "\x7b...\x7d" "\x7b...\x7d"

/-- The mark of the root inside itself. -/
def rootMark : Value := .record "dict" "\x7b...\x7d" .none

mutual

/-- The value of a node. -/
def construct : Node → Except Fault Value
  | .scalar tag plain text => scalarValue tag plain text
  | .sequence tag items => do
      if fits tag "seq" then return .list (← constructAll items)
      else if pairTags.any fun t => tag == some t then return .list (← constructPairs items)
      else throw .invalid
  | .mapping tag entries => do
      if scalarTags.any fun t => tag == some t then return ← mappingAsScalar tag entries
      let isSet := tag == some (tagStart ++ "set")
      if !isSet && !fits tag "map" then throw .invalid
      let (merged, own) ← entriesOf entries
      let all := distinct (merged ++ own)
      return if isSet then .set false (all.map (·.1)) else .mapping all
  | .enclosing isSequence depth => return if depth = 0 then rootMark else markOf isSequence

/-- The values of nodes. -/
def constructAll : List Node → Except Fault (List Value)
  | [] => return []
  | n :: ns => do
      let v ← construct n
      return v :: (← constructAll ns)

/-- The pairs that a sequence of mappings with one entry each lists. -/
def constructPairs : List Node → Except Fault (List Value)
  | [] => return []
  | .mapping _ [(k, v)] :: ns => do
      let key ← construct k
      let value ← construct v
      return .tuple [key, value] :: (← constructPairs ns)
  | _ :: _ => throw .invalid

/-- The entries of a mapping: those it merges, and its own. -/
def entriesOf : List (Node × Node) → Except Fault (List (Value × Value) × List (Value × Value))
  | [] => return ([], [])
  | (k, v) :: rest => do
      if isMerge k then
        let merged ← mergedBy v
        let (others, own) ← entriesOf rest
        return (merged ++ others, own)
      else
        let key ← match k with
          | .scalar tag plain text => keyValue tag plain text
          | k => construct k
        if key.unhashable?.isSome then throw .invalid
        let value ← construct v
        let (merged, own) ← entriesOf rest
        return (merged, (key, value) :: own)

/-- The entries that a node brings in when it is merged. A mapping inside itself has no others. -/
def mergedBy : Node → Except Fault (List (Value × Value))
  | .enclosing .. => return []
  | .mapping _ entries => do
      let (merged, own) ← entriesOf entries
      return merged ++ own
  | .sequence _ items => mergedByAll items
  | _ => throw .invalid

/-- The entries that several mappings bring in; those of the first take precedence. -/
def mergedByAll : List Node → Except Fault (List (Value × Value))
  | [] => return []
  | .enclosing false _ :: rest => mergedByAll rest
  | .mapping _ entries :: rest => do
      let (merged, own) ← entriesOf entries
      return (← mergedByAll rest) ++ (merged ++ own)
  | _ :: _ => throw .invalid

end

mutual

/-- A value with another one in the place of the mark of the root. -/
def expandRoot (root : Value) : Value → Value
  | .record .. => root
  | .list items => .list (expandRootItems root items)
  | .tuple items => .tuple (expandRootItems root items)
  | .mapping entries => .mapping (expandRootEntries root entries)
  | v => v

/-- Values with another one in the place of the mark of the root. -/
def expandRootItems (root : Value) : List Value → List Value
  | [] => []
  | v :: vs => expandRoot root v :: expandRootItems root vs

/-- Entries with a value in the place of the mark of the root. -/
def expandRootEntries (root : Value) : List (Value × Value) → List (Value × Value)
  | [] => []
  | (k, v) :: rest => (k, expandRoot root v) :: expandRootEntries root rest

end

/-- The mark of a value inside itself; values that hold no others are their own. -/
def ownMark : Value → Value
  | .list _ => markOf true
  | .mapping _ => markOf false
  | v => v

/-- The entries of the root as they are by themselves. The root inside one of them is the root with
a mark for that entry. -/
def standAlone (entries : List (Value × Value)) : List (Value × Value) :=
  entries.map fun (k, v) =>
    let around := entries.map fun e => if e.1 == k then (e.1, ownMark e.2) else e
    (k, expandRoot (.mapping around) v)

/-- The value of a file; an empty one is nothing. -/
def load (file : TextStream) : Except Fault Value := do
  match ← nodeOf (← supplyOf file) with
  | none => return .none
  | some root => do
      check root
      match ← construct root with
      | .mapping entries => return .mapping (standAlone entries)
      | v => return v

end Assay.Yaml
