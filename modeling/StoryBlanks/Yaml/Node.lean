import StoryBlanks.Yaml.Tag
import StoryBlanks.Yaml.Tokens

/-!
# Nodes

What the tokens of a document describe, as a table of nodes with every tag settled. Collections
name their parts by number, and a reference is the number of the node that it names. A collection
has its number as soon as it begins, so it may contain itself.
-/
namespace StoryBlanks.Yaml

inductive Node where
  | scalar (tag : Tag) (text : Text.Spelling)
  | list (tag : Tag) (items : List Nat)
  | mapping (tag : Tag) (entries : List (Nat × Nat))

namespace Node

def empty : Node := .scalar .null (.text [])

def tag : Node → Tag
  | .scalar tag _ => tag
  | .list tag _ => tag
  | .mapping tag _ => tag

def withTag (tag : Tag) : Node → Node
  | .scalar _ text => .scalar tag text
  | .list _ items => .list tag items
  | .mapping _ entries => .mapping tag entries

/-- So many collections may stand in each other. -/
def maxDepth : Nat := 490

/-- How far the reading of tokens has come: the tokens left, how many collections are open, the
nodes so far, the numbers of those with a name, and what the handles of tags stand for. -/
structure Reader where
  tokens : Tokens
  depth : Nat := 0
  nodes : Array Node := #[]
  anchors : List (Text × Nat) := []
  handles : List (Text × Text) := []

abbrev Reading := StateT Reader (Except Fault)

namespace Reading

def malformed {α : Type} : Reading α := throw .malformed

def peek : Reading Token := do
  let s ← get
  match s.tokens.list with
  | [] => throw s.tokens.fault
  | t :: _ => return t

def skip : Reading Unit := modify fun s => { s with tokens.list := s.tokens.list.tail }

def expect (t : Token) : Reading Unit := do
  if (← peek) = t then skip else malformed

def accept (t : Token) : Reading Bool := do
  if (← peek) = t then
    skip
    return true
  else return false

def anchor? : Reading (Option Text) := do
  match ← peek with
  | .anchor name =>
    skip
    return some name
  | _ => return none

def shortTag? : Reading (Option (Option Text × Text)) := do
  match ← peek with
  | .tag handle rest =>
    skip
    return some (handle, rest)
  | _ => return none

def fullTag : Option Text × Text → Reading Text
  | (none, rest) => return rest
  | (some handle, rest) => do
    match (← get).handles.lookup handle with
    | some start => return start ++ rest
    | none => malformed

/-- The anchor and the tag in front of a node, in either order. -/
def properties : Reading (Option Text × Option Text) := do
  match ← anchor? with
  | some name => return (some name, ← (← shortTag?).mapM fullTag)
  | none =>
    match ← shortTag? with
    | none => return (none, none)
    | some tag =>
      let anchor ← anchor?
      return (anchor, some (← fullTag tag))

def add (anchor : Option Text) (node : Node) : Reading Nat := do
  let number := (← get).nodes.size
  modify fun s => { s with
    nodes := s.nodes.push node
    anchors := match anchor with
      | some name => (name, number) :: s.anchors
      | none => s.anchors }
  return number

def replace (number : Nat) (node : Node) : Reading Unit :=
  modify fun s => { s with nodes := s.nodes.setIfInBounds number node }

def null : Reading Nat := add none empty

/-- What a collection holds, unless too many others are open around it. -/
def inside {α : Type} (contents : Reading α) : Reading α := do
  let depth := (← get).depth
  if maxDepth ≤ depth then throw .tooDeep
  modify ({ · with depth := depth + 1 })
  let held ← contents
  modify ({ · with depth })
  return held

def list (anchor : Option Text) (tag : Tag) (items : Reading (List Nat)) : Reading Nat := do
  let number ← add anchor (.list tag [])
  replace number (.list tag (← inside items))
  return number

def mapping (anchor : Option Text) (tag : Tag) (entries : Reading (List (Nat × Nat))) :
    Reading Nat := do
  let number ← add anchor (.mapping tag [])
  replace number (.mapping tag (← inside entries))
  return number

def collectionTag (usual : Tag) : Option Text → Tag
  | none => usual
  | some ['!'] => usual
  | some tag => Tag.ofText tag

/-- The tag of a scalar. The bare exclamation mark asks for the tag of a plain scalar. -/
def scalarTag (text : Text.Spelling) (plain : Bool) : Option Text → Tag
  | none => if plain then Tag.ofSpelling text else .text
  | some ['!'] => Tag.ofSpelling text
  | some tag => Tag.ofText tag

mutual

/-- A node. In block context it may be a block collection, and where `inline` says so a sequence
without an indentation of its own. -/
def node : Nat → Bool → Bool → Reading Nat
  | 0, _, _ => malformed
  | n + 1, inBlock, inline => do
    if let .reference name := ← peek then
      skip
      match (← get).anchors.lookup name with
      | some number => return number
      | none => malformed
    else
      let (anchor, tag) ← properties
      let next ← peek
      if let some name := anchor then
        if ((← get).anchors.lookup name).isSome then malformed
      match next with
      | .scalar text plain =>
        skip
        add anchor (.scalar (scalarTag text plain tag) text)
      | .sequenceOpen =>
        skip
        list anchor (collectionTag .list tag) (flowItems n true)
      | .mappingOpen =>
        skip
        mapping anchor (collectionTag .mapping tag) (flowEntries n true)
      | t =>
        if t = .entry && inline then list anchor (collectionTag .list tag) (inlineItems n)
        else if t = .blockSequence && inBlock then
          skip
          list anchor (collectionTag .list tag) (blockItems n)
        else if t = .blockMapping && inBlock then
          skip
          mapping anchor (collectionTag .mapping tag) (blockEntries n)
        else if anchor.isSome || tag.isSome then
          add anchor (.scalar (scalarTag (.text []) tag.isNone tag) (.text []))
        else malformed

/-- A node, or nothing where one of some tokens follows at once. -/
def nodeUnless : Nat → List Token → Bool → Bool → Reading Nat
  | 0, _, _, _ => malformed
  | n + 1, ends, inBlock, inline => do
    if ends.contains (← peek) then null else node n inBlock inline

/-- A node behind a colon, or nothing where there is no colon. -/
def nodeAfterColon : Nat → List Token → Bool → Bool → Reading Nat
  | 0, _, _, _ => malformed
  | n + 1, ends, inBlock, inline => do
    if ← accept .value then nodeUnless n ends inBlock inline else null

def blockItems : Nat → Reading (List Nat)
  | 0 => malformed
  | n + 1 => do
    if ← accept .entry then
      let item ← nodeUnless n [.entry, .blockEnd] true false
      return item :: (← blockItems n)
    else
      expect .blockEnd
      return []

def inlineItems : Nat → Reading (List Nat)
  | 0 => malformed
  | n + 1 => do
    if ← accept .entry then
      let item ← nodeUnless n [.entry, .key, .value, .blockEnd] true false
      return item :: (← inlineItems n)
    else return []

def blockEntries : Nat → Reading (List (Nat × Nat))
  | 0 => malformed
  | n + 1 => do
    if ← accept .key then
      let key ← nodeUnless n [.key, .value, .blockEnd] true true
      let value ← nodeAfterColon n [.key, .value, .blockEnd] true true
      return (key, value) :: (← blockEntries n)
    else
      expect .blockEnd
      return []

/-- The items of a flow sequence. A pair of key and value is a mapping with one entry. -/
def flowItems : Nat → Bool → Reading (List Nat)
  | 0, _ => malformed
  | n + 1, first => do
    if ← accept .sequenceClose then return []
    if !first then
      expect .comma
      if ← accept .sequenceClose then return []
    let item ←
      if ← accept .key then
        mapping none .mapping do
          let key ← nodeUnless n [.value, .comma, .sequenceClose] false false
          let value ← nodeAfterColon n [.comma, .sequenceClose] false false
          return [(key, value)]
      else node n false false
    return item :: (← flowItems n false)

def flowEntries : Nat → Bool → Reading (List (Nat × Nat))
  | 0, _ => malformed
  | n + 1, first => do
    if ← accept .mappingClose then return []
    if !first then
      expect .comma
      if ← accept .mappingClose then return []
    let entry ←
      if ← accept .key then do
        let key ← nodeUnless n [.value, .comma, .mappingClose] false false
        let value ← nodeAfterColon n [.comma, .mappingClose] false false
        pure (key, value)
      else do
        let key ← node n false false
        pure (key, ← null)
    return entry :: (← flowEntries n false)

end

/-! ## Documents -/

def directives : Nat → Bool → Reading Unit
  | 0, _ => malformed
  | n + 1, versioned => do
    match ← peek with
    | .version major =>
      if versioned || major ≠ 1 then malformed
      skip
      directives n true
    | .tagHandle handle start =>
      if ((← get).handles.lookup handle).isSome then malformed
      skip
      modify fun s => { s with handles := (handle, start) :: s.handles }
      directives n versioned
    | .otherDirective =>
      skip
      directives n versioned
    | _ => return

/-- The handles that need no directive. -/
def usualHandles : List (Text × Text) := [(['!'], ['!']), (['!', '!'], Tag.core)]

def isDirective : Token → Bool
  | .version _ | .tagHandle .. | .otherDirective => true
  | _ => false

/-- The end of a text, where no other document may begin. -/
def finish (bound : Nat) : Reading Unit := do
  for _ in List.range bound do
    if ← accept .documentEnd then continue else break
  if (← peek) ≠ .finish then
    modify fun s => { s with handles := [] }
    directives bound false
    let _ ← peek
    malformed

/-- The number of the root of the only document of a text, if there is one. -/
def document : Reading (Option Nat) := do
  let bound := 2 * (← get).tokens.list.length + 4
  let first ← peek
  if first = .finish then return none
  let root ←
    if isDirective first || first = .documentStart then do
      directives bound false
      modify fun s => { s with handles := s.handles ++ usualHandles }
      expect .documentStart
      let next ← peek
      if isDirective next then null
      else nodeUnless bound [.documentStart, .documentEnd, .finish] true false
    else do
      modify fun s => { s with handles := usualHandles }
      node bound true false
  finish bound
  return some root

end Reading

/-- The nodes of the document in a text and the number of its root, if it has one. -/
def ofSource? (source : Source) : Except Fault (Option (Array Node × Nat)) := do
  let (root, reader) ← Reading.document.run { tokens := Tokens.ofSource source }
  return root.map fun root => (reader.nodes, root)

end Node
end StoryBlanks.Yaml
