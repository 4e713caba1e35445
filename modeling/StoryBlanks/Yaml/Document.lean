import StoryBlanks.Document
import StoryBlanks.Text.Stream
import StoryBlanks.Value.Key
import StoryBlanks.Yaml.Atom
import StoryBlanks.Yaml.Node

/-!
# The values of nodes

Every node that the root leads to becomes the part of a document with the same number. Scalars get
their values as soon as they are met; collections are filled one after the other in the order in
which they were met, so of several faults the one in the outermost collection is told. Before a
mapping is filled, its merge keys take in the entries of the mappings behind them.
-/
namespace StoryBlanks.Yaml

/-- How far the making of a document has come: the nodes, which merging changes, a bound for the
merge keys in them, the parts that are made or begun, and the collections that are to be filled. -/
structure Making where
  nodes : Array Node
  mergeBound : Nat
  parts : Array (Option Document.Part)
  waiting : List Nat := []

abbrev Maker := StateT Making (Except Fault)

namespace Maker

def malformed {α : Type} : Maker α := throw .malformed

def node (number : Nat) : Maker Node := return (← get).nodes.getD number Node.empty

def part? (number : Nat) : Maker (Option Document.Part) :=
  return ((← get).parts[number]?).join

def setNode (number : Nat) (node : Node) : Maker Unit :=
  modify fun s => { s with nodes := s.nodes.setIfInBounds number node }

def setPart (number : Nat) (part : Document.Part) : Maker Unit :=
  modify fun s => { s with parts := s.parts.setIfInBounds number (some part) }

/-- A part that is no node of its own, with the number that it gets. -/
def addPart (part : Document.Part) : Maker Nat := do
  let number := (← get).parts.size
  modify fun s => { s with parts := s.parts.push (some part) }
  return number

/-! ## Merging -/

/-- A default key is an ordinary text where the mapping stands for itself. -/
def settleKey (key : Nat) : Maker Unit := do
  let k ← node key
  if k.tag = .default then setNode key (k.withTag .text)

abbrev Entries := List (Nat × Nat)

/-- The entries in front of the first merge key, what it takes in, and the entries behind it. -/
def cutAtMerge : Entries → Maker (Option (Entries × Nat × Entries))
  | [] => return none
  | (key, value) :: entries => do
    if (← node key).tag = .merge then return some ([], value, entries)
    settleKey key
    return (← cutAtMerge entries).map fun (before, merged, behind) =>
      ((key, value) :: before, merged, behind)

def entries (number : Nat) : Maker Entries := do
  match ← node number with
  | .mapping _ entries => return entries
  | _ => return []

def setEntries (number : Nat) (entries : Entries) : Maker Unit := do
  setNode number (.mapping (← node number).tag entries)

/-- Replaces the merge keys of a mapping by what they take in, in front of its own entries; of a
list of mappings, the later ones give way to the earlier ones. The bound falls with every merge key
that is taken out. `taken` is what earlier keys took in. -/
def merge : Nat → Nat → Entries → Maker Unit
  | 0, _, _ => malformed
  | n + 1, number, taken => do
    match ← cutAtMerge (← entries number) with
    | none => if !taken.isEmpty then setEntries number (taken ++ (← entries number))
    | some (before, merged, behind) =>
      setEntries number (before ++ behind)
      match ← node merged with
      | .mapping .. =>
        merge n merged []
        merge n number (taken ++ (← entries merged))
      | .list _ items =>
        let each ← items.mapM fun item => do
          let .mapping .. := ← node item | malformed
          merge n item []
          entries item
        merge n number (taken ++ each.reverse.flatten)
      | .scalar .. => malformed

/-- More than the number of merge keys in the nodes. Merging adds none. -/
def mergeBound (nodes : Array Node) : Nat :=
  nodes.toList.foldl (fun bound => fun
    | .mapping _ entries => bound + entries.length
    | _ => bound) 1

/-! ## Values -/

/-- The text that stands for a node where a scalar is wanted: of a mapping, that of the value of
its default key. -/
def spelling : Nat → Nat → Maker Text.Spelling
  | 0, _ => throw .tooDeep
  | n + 1, number => do
    match ← node number with
    | .scalar _ text => return text
    | .list .. => malformed
    | .mapping _ entries =>
      match ← entries.findM? fun (key, _) => return (← node key).tag = .default with
      | some (_, value) => spelling n value
      | none => malformed

def textOf (number : Nat) : Maker Text.Spelling := do spelling ((← get).nodes.size + 1) number

def start (number : Nat) (part : Document.Part) : Maker Unit := do
  setPart number part
  modify fun s => { s with waiting := s.waiting ++ [number] }

/-- Makes the part of a node, unless it is made already. A collection is only begun. -/
def make (number : Nat) : Maker Unit := do
  if (← part? number).isNone then
    match (← node number).tag with
    | .list => start number (.list [])
    | .pairs => start number (.list [])
    | .set => start number (.set [])
    | .mapping => start number (.mapping [])
    | .merge => malformed
    | .default => malformed
    | .unknown => malformed
    | tag =>
      let text ← textOf number
      if tag = .timestamp then
        if let .mapping .. := ← node number then throw .mappingTimestamp
      setPart number (.atom (← Atom.ofSpelling tag text))

/-- Makes a node that is a key. What is not a number is a key of its own, unless it has a name. -/
def makeKey (number : Nat) : Maker Key := do
  make number
  let some (.atom v) := ← part? number | malformed
  if Key.isNaN v then
    if let .text cs := ← textOf number then
      if Atom.isNamedNaN cs then return ⟨v, 0⟩
  return ⟨v, number + 1⟩

def makeEntries (number : Nat) : Maker (List (Key × Nat)) := do
  let .mapping .. := ← node number | malformed
  merge (← get).mergeBound number []
  (← entries number).foldlM (fun done (key, value) => do
    let k ← makeKey key
    make value
    return Key.insert k value done) []

def makePair (number : Nat) : Maker Nat := do
  let .mapping _ [(key, value)] := ← node number | malformed
  make key
  make value
  addPart (.pair key value)

def fill (number : Nat) : Maker Unit := do
  match (← node number).tag with
  | .list =>
    let .list _ items := ← node number | malformed
    items.forM make
    setPart number (.list items)
  | .pairs =>
    let .list _ items := ← node number | malformed
    setPart number (.list (← items.mapM makePair))
  | .set =>
    let members := (← makeEntries number).map Prod.fst
    setPart number (.set ((Key.inSlots members).map Key.value))
  | _ =>
    let entries ← makeEntries number
    setPart number (.mapping (entries.map fun (k, v) => (k.value, v)))

def fillAll : Nat → Maker Unit
  | 0 => malformed
  | n + 1 => do
    match (← get).waiting with
    | [] => return
    | number :: rest =>
      modify ({ · with waiting := rest })
      fill number
      fillAll n

def run (nodes : Array Node) (root : Nat) : Except Fault Document := do
  let making : Making := ⟨nodes, mergeBound nodes, Array.replicate nodes.size none, []⟩
  let all : Maker Unit := do
    make root
    fillAll (nodes.size + 1)
  let ((), made) ← StateT.run all making
  return ⟨made.parts.map (·.getD (.atom .null)), root⟩

end Maker

/-! ## Documents -/

def nothing : Document := ⟨#[.atom .null], 0⟩

/-- The document in a text; a text without one stands for nothing. -/
def read (source : Source) : Except Fault Document := do
  match ← Node.ofSource? source with
  | none => return nothing
  | some (nodes, root) => Maker.run nodes root

def isAllowed (c : Char) : Bool :=
  let n := c.toNat
  n == 0x09 || n == 0x0A || n == 0x0D || (0x20 ≤ n && n ≤ 0x7E) || n == 0x85 ||
    (0xA0 ≤ n && n ≤ 0xFFFD) || 0x10000 ≤ n

/-- The text of a file that is looked at piece by piece, up to the first piece that cannot be read
or holds a character that it may not hold. -/
def Source.ofPieces (e : Option Utf8.DecodeError) : List Text → Source
  | [] => ⟨[], e.map .undecodable⟩
  | piece :: pieces =>
    if piece.all isAllowed then
      let rest := Source.ofPieces e pieces
      ⟨piece ++ rest.text, rest.beyond⟩
    else ⟨[], some .malformed⟩

/-- How many characters of a file are read at once. -/
def pieceSize : Nat := 4096

/-- The text of a file, of which the first two pieces are looked at together. -/
def Source.ofBytes (bytes : Utf8.Bytes) : Source :=
  match Text.pieces pieceSize bytes with
  | ([_], some e) => ⟨[], some (.undecodable e)⟩
  | (first :: second :: rest, e) => Source.ofPieces e ((first ++ second) :: rest)
  | (pieces, e) => Source.ofPieces e pieces

def readBytes (bytes : Utf8.Bytes) : Except Fault Document := read (Source.ofBytes bytes)

end StoryBlanks.Yaml
