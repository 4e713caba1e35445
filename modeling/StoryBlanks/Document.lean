import StoryBlanks.Value

/-!
# Documents

What a data file holds, as a table of parts that name each other by their places in it. A part may
be named more than once and may even contain itself, so a document need not be a tree.
`Document.value` is the tree that is seen from one place; it ends where a part would be entered
again.
-/
namespace StoryBlanks

/-- A part of a document. Keys and members are never collections, so they stand for themselves. -/
inductive Document.Part where
  | atom (v : Value)
  | list (items : List Nat)
  | pair (first second : Nat)
  | set (members : List Value)
  | mapping (entries : List (Value × Nat))
  deriving Inhabited

structure Document where
  parts : Array Document.Part
  root : Nat

namespace Document

def part (d : Document) (place : Nat) : Part := d.parts.getD place (.atom .null)

/-- The value at a place, inside collections at other places. The number bounds how deep it goes. -/
def valueInside (d : Document) : Nat → List Nat → Nat → Value
  | 0, _, _ => .null
  | n + 1, outer, place =>
    match d.part place with
    | .atom v => v
    | .list items =>
      if outer.contains place then .sameList
      else .list (items.map (d.valueInside n (place :: outer)))
    | .pair a b => .pair (d.valueInside n outer a) (d.valueInside n outer b)
    | .set members => .set members
    | .mapping entries =>
      if outer.contains place then .sameMapping
      else .mapping (entries.map fun (k, v) => (k, d.valueInside n (place :: outer) v))

/-- The value at a place. No way down enters a collection twice, and pairs stand in lists only, so
it is never longer than this bound. -/
def value (d : Document) (place : Nat) : Value := d.valueInside (2 * d.parts.size + 1) [] place

def get? (key : Text) : List (Value × Nat) → Option Nat
  | [] => none
  | (.text k, place) :: es => if k = key then some place else get? key es
  | _ :: es => get? key es

end Document
end StoryBlanks
