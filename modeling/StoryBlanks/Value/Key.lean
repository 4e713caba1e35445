import StoryBlanks.Value

/-!
# Keys

The keys of a mapping and the members of a set. Two keys are the same where their values are equal,
whatever their kinds: truth values count as numbers, numbers of both kinds are compared exactly, and
moments with an offset by the instant they name. What is not a number equals nothing, not even
itself; there only the mark of a key tells.
-/
namespace StoryBlanks

/-- A value that is no collection, and a mark that tells it from others that look alike. -/
structure Key where
  value : Value
  mark : Nat

namespace Key

/-- Where a whole number and a floating-point number are equal. -/
def equalsInt (x : Float) (n : Int) : Bool :=
  match Decimal.kind x with
  | .zero _ => n = 0
  | .finite negative m =>
    let n := if negative then -n else n
    if 0 ≤ m.exponent then n = m.mantissa * Int.pow 2 m.exponent.toNat
    else n * Int.pow 2 (-m.exponent).toNat = m.mantissa
  | _ => false

/-- A truth value counts as a number. -/
def number : Value → Value
  | .bool b => .int (if b then 1 else 0)
  | v => v

def equal (a b : Value) : Bool :=
  match number a, number b with
  | .null, .null => true
  | .int m, .int n => m = n
  | .int n, .float x => equalsInt x n
  | .float x, .int n => equalsInt x n
  | .float x, .float y => x == y
  | .text s, .text t => s = t
  | .broken s, .broken t => s = t
  | .bytes s, .bytes t => s = t
  | .date d, .date e => d = e
  | .moment m, .moment n => m.isSameAs n
  | _, _ => false

def isNaN : Value → Bool
  | .float x => x.isNaN
  | _ => false

def same (a b : Key) : Bool :=
  equal a.value b.value || (isNaN a.value && isNaN b.value && a.mark = b.mark)

/-- Entries with one more. A key that is there already stays where it is and gets the new
value. -/
def insert {α : Type} (key : Key) (value : α) : List (Key × α) → List (Key × α)
  | [] => [(key, value)]
  | (k, v) :: es => if same k key then (k, value) :: es else (k, v) :: insert key value es

/-! ## The order of a set

A set of numbers is kept in a table of slots. Every number has a slot of its own by its residue
modulo a prime; where that is taken, the slots behind it are tried, and then others that more and
more of the residue's bits decide about. The members stand in the order of their slots. -/

/-- The modulus of the residues, a Mersenne prime. -/
def modulus : Nat := Nat.pow 2 61 - 1

/-- A signed residue as an unsigned word. No number has the residue minus one. -/
def word (negative : Bool) (residue : Nat) : Nat :=
  if negative then if residue = 0 then 0 else Nat.pow 2 64 - (if residue = 1 then 2 else residue)
  else residue

/-- The residue of a number; other values have none. A half is the residue `2 ^ 60`. -/
def residue? (v : Value) : Option Nat :=
  match number v with
  | .int n => some (word (n < 0) (n.natAbs % modulus))
  | .float x =>
    match Decimal.kind x with
    | .zero _ => some 0
    | .infinite negative => some (word negative 314159)
    | .finite negative m =>
      let power := if 0 ≤ m.exponent then Nat.pow 2 m.exponent.toNat
        else Nat.pow 2 (60 * ((-m.exponent).toNat % 61))
      some (word negative (m.mantissa * (power % modulus) % modulus))
    | .nan => none
  | _ => none

/-- The slots tried for a residue, in a table of a given size: runs of ten neighbours, or of one
near the end of the table. -/
def slots (size : Nat) : Nat → Nat → Nat → List Nat
  | 0, _, _ => []
  | n + 1, i, bits =>
    let run := if i + 9 < size then (List.range 10).map (i + ·) else [i]
    let bits := bits / 32
    run ++ slots size n ((i * 5 + 1 + bits) % size) bits

def tableSize (members : Nat) : Nat :=
  if members < 5 then 8 else max 8 (Nat.pow 2 (Nat.log2 (2 * members) + 1))

/-- The members in the order of their slots. Where one of them has no residue they stay as they came:
the slots of a text are chosen anew for every run of the program, so that no order is the right one. -/
def inSlots (members : List Key) : List Key :=
  let size := tableSize members.length
  match members.mapM fun k => (residue? k.value).map fun r => (k, r) with
  | none => members
  | some members =>
    let place (taken : List (Nat × Key)) : Key × Nat → List (Nat × Key)
      | (k, r) =>
        let tried := slots size (size + 16) (r % size) r
        let slot := (tried.find? fun i => !taken.any fun (j, _) => j = i).getD 0
        (slot, k) :: taken
    let placed := members.foldl place []
    (placed.mergeSort fun a b => decide (a.1 ≤ b.1)).map Prod.snd

end Key
end StoryBlanks
