import Assay.Yaml.Scanner

/-!
# YAML nodes

The tokens of a stream with one document are read as a tree of nodes. An alias is replaced by the
node it names; inside that node itself it is only a mark.
-/

namespace Assay.Yaml

/-- A node. A tag is written out, or missing. The mark of an enclosing collection says which of them
it is by its depth; the root has the depth zero. -/
inductive Node where
  | scalar (tag : Option String) (plain : Bool) (text : String)
  | sequence (tag : Option String) (items : List Node)
  | mapping (tag : Option String) (entries : List (Node × Node))
  | enclosing (isSequence : Bool) (depth : Nat)
  deriving Inhabited

/-- What has been read of a stream. -/
structure Reading where
  tokens : List Token
  anchors : List (String × Node) := []
  handles : List (String × String) := []
  depth : Nat := 0

/-- A step of reading. -/
abbrev Read := StateT Reading (Except Fault)

namespace Read

/-- The document is wrong. -/
def refuse {α : Type} : Read α := throw .invalid

/-- The next token. -/
def peek : Read Token := do
  match (← get).tokens.headD .streamEnd with
  | .unreadable f => throw (.failed f)
  | t => return t

/-- Go past the next token. -/
def skip : Read Unit := modify fun r => { r with tokens := r.tokens.tail }

/-- A scalar that is not there. -/
def missing : Node := .scalar none true ""

/-- The handles that every document has. -/
def defaultHandles : List (String × String) := [("!", "!"), ("!!", "tag:yaml.org,2002:")]

/-- The tag and the anchor in front of a node. -/
def properties : Read (Option (Option String × String) × Option String) := do
  match ← peek with
  | .anchor name => do
      skip
      match ← peek with
      | .tag handle suffix => do
          skip
          return (some (handle, suffix), some name)
      | _ => return (none, some name)
  | .tag handle suffix => do
      skip
      match ← peek with
      | .anchor name => do
          skip
          return (some (handle, suffix), some name)
      | _ => return (some (handle, suffix), none)
  | _ => return (none, none)

/-- Write a tag out. -/
def resolveTag : Option (Option String × String) → Read (Option String)
  | none => return none
  | some (none, suffix) => return some suffix
  | some (some handle, suffix) => do
      match (← get).handles.find? fun h => h.1 == handle with
      | some (_, start) => return some (start ++ suffix)
      | none => refuse

/-- Give an anchor a node; no anchor may be used twice. -/
def bindAnchor (anchor : Option String) (node : Node) : Read Unit :=
  match anchor with
  | none => return ()
  | some name => do
      if (← get).anchors.any fun a => a.1 == name then refuse
      modify fun r => { r with anchors := (name, node) :: r.anchors }

/-- Replace the mark of an enclosing node by the node that is now complete. -/
def completeAnchor (anchor : Option String) (node : Node) : Read Unit :=
  match anchor with
  | none => return ()
  | some name => modify fun r =>
      { r with anchors := (name, node) :: r.anchors.filter fun a => a.1 != name }

/-- Read the items of a collection that may be named by an anchor. -/
def collection (anchor : Option String) (isSequence : Bool) (items : Read Node) : Read Node := do
  let depth := (← get).depth
  bindAnchor anchor (.enclosing isSequence depth)
  modify fun r => { r with depth := depth + 1 }
  let node ← items
  modify fun r => { r with depth }
  completeAnchor anchor node
  return node

mutual

/-- Read a node. `block` nodes may be indented; a sequence without an indentation of its own is only
read as the key or value of a block mapping. -/
def node : Nat → (block indentless : Bool) → Read Node
  | 0, _, _ => refuse
  | n + 1, block, indentless => do
      match ← peek with
      | .alias name => do
          skip
          match (← get).anchors.find? fun a => a.1 == name with
          | some (_, node) => return node
          | none => refuse
      | _ =>
          let (tag, anchor) ← properties
          let tag ← resolveTag tag
          match ← peek with
          | .blockEntry =>
              if indentless then
                collection anchor true (return .sequence tag (← indentlessItems n))
              else if tag.isSome || anchor.isSome then absent tag anchor
              else refuse
          | .scalar text plain => do
              skip
              let node := Node.scalar tag (plain || tag == some "!") text
              bindAnchor anchor node
              return node
          | .flowSequenceStart => do
              skip
              collection anchor true (return .sequence tag (← flowItems n true))
          | .flowMappingStart => do
              skip
              collection anchor false (return .mapping tag (← flowEntries n true))
          | .blockSequenceStart =>
              if block then do
                skip
                collection anchor true (return .sequence tag (← blockItems n))
              else if tag.isSome || anchor.isSome then absent tag anchor
              else refuse
          | .blockMappingStart =>
              if block then do
                skip
                collection anchor false (return .mapping tag (← blockEntries n))
              else if tag.isSome || anchor.isSome then absent tag anchor
              else refuse
          | _ => if tag.isSome || anchor.isSome then absent tag anchor else refuse

/-- A node of which there is only a tag or an anchor. -/
def absent (tag anchor : Option String) : Read Node := do
  let node := Node.scalar tag true ""
  bindAnchor anchor node
  return node

/-- The items of a block sequence. -/
def blockItems : Nat → Read (List Node)
  | 0 => refuse
  | n + 1 => do
      match ← peek with
      | .blockEntry => do
          skip
          let item ← match ← peek with
            | .blockEntry | .blockEnd => pure missing
            | _ => node n true false
          return item :: (← blockItems n)
      | .blockEnd => do
          skip
          return []
      | _ => refuse

/-- The items of a sequence without an indentation of its own. -/
def indentlessItems : Nat → Read (List Node)
  | 0 => refuse
  | n + 1 => do
      match ← peek with
      | .blockEntry => do
          skip
          let item ← match ← peek with
            | .blockEntry | .key | .value | .blockEnd => pure missing
            | _ => node n true false
          return item :: (← indentlessItems n)
      | _ => return []

/-- The entries of a block mapping. -/
def blockEntries : Nat → Read (List (Node × Node))
  | 0 => refuse
  | n + 1 => do
      match ← peek with
      | .key => do
          skip
          let k ← match ← peek with
            | .key | .value | .blockEnd => pure missing
            | _ => node n true true
          let v ← blockValue n
          return (k, v) :: (← blockEntries n)
      | .blockEnd => do
          skip
          return []
      | _ => refuse

/-- The value of an entry of a block mapping. -/
def blockValue : Nat → Read Node
  | 0 => refuse
  | n + 1 => do
      match ← peek with
      | .value => do
          skip
          match ← peek with
          | .key | .value | .blockEnd => return missing
          | _ => node n true true
      | _ => return missing

/-- The items of a flow sequence; `first` holds as long as no comma is needed. -/
def flowItems : Nat → (first : Bool) → Read (List Node)
  | 0, _ => refuse
  | n + 1, first => do
      if (← peek) = .flowSequenceEnd then
        skip
        return []
      if !first then
        if (← peek) ≠ .flowEntry then refuse
        skip
      match ← peek with
      | .flowSequenceEnd => do
          skip
          return []
      | .key => do
          skip
          let k ← match ← peek with
            | .value | .flowEntry | .flowSequenceEnd => pure missing
            | _ => node n false false
          let v ← flowValue n
          return .mapping none [(k, v)] :: (← flowItems n false)
      | _ => do
          let item ← node n false false
          return item :: (← flowItems n false)

/-- The entries of a flow mapping; `first` holds as long as no comma is needed. -/
def flowEntries : Nat → (first : Bool) → Read (List (Node × Node))
  | 0, _ => refuse
  | n + 1, first => do
      if (← peek) = .flowMappingEnd then
        skip
        return []
      if !first then
        if (← peek) ≠ .flowEntry then refuse
        skip
      match ← peek with
      | .flowMappingEnd => do
          skip
          return []
      | .key => do
          skip
          let k ← match ← peek with
            | .value | .flowEntry | .flowMappingEnd => pure missing
            | _ => node n false false
          let v ← flowValue n
          return (k, v) :: (← flowEntries n false)
      | _ => do
          let k ← node n false false
          return (k, missing) :: (← flowEntries n false)

/-- The value of an entry between brackets. -/
def flowValue : Nat → Read Node
  | 0 => refuse
  | n + 1 => do
      match ← peek with
      | .value => do
          skip
          match ← peek with
          | .flowEntry | .flowSequenceEnd | .flowMappingEnd => return missing
          | _ => node n false false
      | _ => return missing

end

/-- Read the directives of a document. -/
def directives : Nat → (seenVersion : Bool) → Read Unit
  | 0, _ => refuse
  | n + 1, seenVersion => do
      match ← peek with
      | .version major _ => do
          if seenVersion || major ≠ 1 then refuse
          skip
          directives n true
      | .tagHandle handle start => do
          if (← get).handles.any fun h => h.1 == handle then refuse
          modify fun r => { r with handles := (handle, start) :: r.handles }
          skip
          directives n seenVersion
      | .otherDirective => do
          skip
          directives n seenVersion
      | _ => modify fun r =>
          { r with handles := r.handles ++ defaultHandles.filter fun d =>
              !r.handles.any fun h => h.1 == d.1 }

/-- Skip the marks behind a document. -/
def skipEnds : Nat → Read Unit
  | 0 => return ()
  | n + 1 => do
      if (← peek) = .documentEnd then
        skip
        skipEnds n

/-- Read the only document of a stream, if there is one. -/
def document (fuel : Nat) : Read (Option Node) := do
  let first ← peek
  if first = .streamEnd then return none
  let root ←
    if first.isDirective || first = .documentStart then do
      directives fuel false
      if (← peek) ≠ .documentStart then refuse
      skip
      let next ← peek
      if next.isDirective || next = .documentStart || next = .documentEnd || next = .streamEnd then
        pure missing
      else node fuel true false
    else do
      modify fun r => { r with handles := defaultHandles }
      node fuel true false
  skipEnds fuel
  if (← peek) = .streamEnd then return some root
  -- another document is one too many, but how it begins is read first
  modify fun r => { r with handles := [] }
  directives fuel false
  let _ ← peek
  refuse

end Read

/-- The node of a stream, if it is not empty. -/
def nodeOf (s : Supply) : Except Fault (Option Node) := do
  match tokens? s with
  | none => throw .invalid
  | some tokens =>
      let (root, _) ← (Read.document (4 * tokens.length + 8)).run { tokens }
      return root

end Assay.Yaml
