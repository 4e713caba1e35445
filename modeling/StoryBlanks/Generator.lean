/-!
# Random choices

A random number generator with 624 words of state, the Mersenne twister. Every word of output
comes from one word of state, and after 624 of them the state is renewed as a whole. A choice among
some things depends on the state and on their number only.
-/
namespace StoryBlanks

/-- The words of the state, and how many of them have been used since it was renewed. -/
structure Generator where
  words : Array UInt32
  used : Nat
  deriving DecidableEq, Repr

namespace Generator

def size : Nat := 624

def word (words : Array UInt32) (i : Nat) : UInt32 := words.getD i 0

def folded (x : UInt32) : UInt32 := x ^^^ (x >>> 30)

/-! ## Seeding -/

/-- The state that seeding starts from. -/
def plain : Array UInt32 :=
  (List.range (size - 1)).foldl
    (fun words i => words.push (1812433253 * folded (word words i) + UInt32.ofNat (i + 1)))
    #[19650218]

/-- Goes on to the next place, and behind the last one takes its word along to the front. -/
def advance (words : Array UInt32) (i : Nat) : Array UInt32 × Nat :=
  if i + 1 < size then (words, i + 1)
  else (words.setIfInBounds 0 (word words (size - 1)), 1)

/-- Mixes a key into the state, one word of it at a time and over again until every place of the
state has had its turn. -/
def mixKey (key : Array UInt32) (words : Array UInt32) : Array UInt32 × Nat :=
  (List.range (max size key.size)).foldl
    (fun (words, i) n =>
      let j := n % key.size
      let x := (word words i ^^^ (folded (word words (i - 1)) * 1664525)) + word key j
        + UInt32.ofNat j
      advance (words.setIfInBounds i x) i)
    (words, 1)

/-- Mixes the state with itself, from a place on. -/
def mixSelf (words : Array UInt32) (i : Nat) : Array UInt32 :=
  ((List.range (size - 1)).foldl
    (fun (words, i) _ =>
      let x := (word words i ^^^ (folded (word words (i - 1)) * 1566083941)) - UInt32.ofNat i
      advance (words.setIfInBounds i x) i)
    (words, i)).1

/-- The digits of a number in base 2 ^ 32, lowest first; zero has one digit. -/
def digits (n : Nat) : List UInt32 :=
  if _h : n < 0x100000000 then [UInt32.ofNat n]
  else UInt32.ofNat (n % 0x100000000) :: digits (n / 0x100000000)
termination_by n
decreasing_by omega

/-- The generator for a seed, whose sign does not matter. -/
def ofSeed (seed : Int) : Generator :=
  let (words, i) := mixKey (digits seed.natAbs).toArray plain
  ⟨(mixSelf words i).setIfInBounds 0 0x80000000, size⟩

/-! ## Output -/

def renewed (words : Array UInt32) : Array UInt32 :=
  (List.range size).foldl
    (fun words i =>
      let y := (word words i &&& 0x80000000) ||| (word words ((i + 1) % size) &&& 0x7fffffff)
      let mask : UInt32 := if y &&& 1 = 1 then 0x9908b0df else 0
      words.setIfInBounds i (word words ((i + 397) % size) ^^^ (y >>> 1) ^^^ mask))
    words

def tempered (y : UInt32) : UInt32 :=
  let y := y ^^^ (y >>> 11)
  let y := y ^^^ ((y <<< 7) &&& 0x9d2c5680)
  let y := y ^^^ ((y <<< 15) &&& 0xefc60000)
  y ^^^ (y >>> 18)

def next (g : Generator) : UInt32 × Generator :=
  let g := if g.used < size then g else ⟨renewed g.words, 0⟩
  (tempered (word g.words g.used), ⟨g.words, g.used + 1⟩)

/-- How many words are drawn at most for one choice. -/
def maxDraws : Nat := 20000

/-- Draws numbers of so many bits until one is below `n`, which has as many. A word whose highest bit
is zero gives one. The highest bits of the words obey a linear recurrence of order 19937 and have the
longest period there is for it, so that no more than 19937 of them in a row are ones; the most draws
are never made, except from a state of zeros only, which no seed gives. -/
def drawBelow (n bits : Nat) : Nat → Generator → Nat × Generator
  | 0, g => (0, g)
  | draws + 1, g =>
    let (x, g) := g.next
    let r := x.toNat / Nat.pow 2 (32 - bits)
    if r < n then (r, g) else drawBelow n bits draws g

def choose (g : Generator) (n : Nat) : Nat × Generator := drawBelow n (n.log2 + 1) maxDraws g

theorem drawBelow_lt {n : Nat} (h : 0 < n) (bits draws : Nat) (g : Generator) :
    (drawBelow n bits draws g).1 < n := by
  induction draws generalizing g with
  | zero => exact h
  | succ draws ih =>
    simp only [drawBelow]
    split
    · assumption
    · exact ih _

theorem choose_lt (g : Generator) {n : Nat} (h : 0 < n) : (g.choose n).1 < n :=
  drawBelow_lt h _ _ g

end Generator
end StoryBlanks
