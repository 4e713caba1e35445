import StoryBlanks.Text.Basic

/-!
# Shortest decimals

The decimal with the fewest digits among those that read back as a given binary number, and of
those the nearest to it. `Magnitude` holds a positive binary number exactly, together with the
numbers that round to it; the search goes from coarse to fine grids of multiples of a power of
ten and stops at the first one that has a point among them. If a point of a grid lies there, so
does one of the number's two neighbours on that grid, so only those are tried.
-/
namespace StoryBlanks.Decimal

/-- The number `mantissa · 2 ^ exponent`, for a positive mantissa, where `narrow` says that the
next smaller number is half as far away as the next larger one. -/
structure Magnitude where
  mantissa : Nat
  exponent : Int
  narrow : Bool
  deriving DecidableEq, Repr

structure Digits where
  digits : Nat
  exponent : Int
  deriving DecidableEq, Repr

namespace Magnitude

/-- With `x` in units of a quarter of the last place and a grid of step `10 ^ k`, the position
`x · 2 ^ (exponent - 2) / 10 ^ k` on that grid is `x · scale.1 / scale.2`. -/
def scale (m : Magnitude) (k : Int) : Nat × Nat :=
  (Nat.pow 2 (m.exponent - 2).toNat * Nat.pow 10 (-k).toNat,
    Nat.pow 2 (2 - m.exponent).toNat * Nat.pow 10 k.toNat)

/-- Whether the point `c · 10 ^ k` rounds to the number. The ends of the interval do exactly when
the mantissa is even. -/
def roundsFrom (m : Magnitude) (k : Int) (c : Nat) : Bool :=
  let (a, b) := m.scale k
  let low := (if m.narrow then 4 * m.mantissa - 1 else 4 * m.mantissa - 2) * a
  let high := (4 * m.mantissa + 2) * a
  if m.mantissa % 2 = 0 then low ≤ c * b && c * b ≤ high else low < c * b && c * b < high

/-- The nearest point of the grid with step `10 ^ k` that rounds to the number, if one does. An
exact tie goes to the even neighbour. -/
def onGrid? (m : Magnitude) (k : Int) : Option Nat :=
  let (a, b) := m.scale k
  let x := 4 * m.mantissa * a
  let below := x / b
  match m.roundsFrom k below, m.roundsFrom k (below + 1) with
  | true, true =>
    let down := x - below * b
    let up := (below + 1) * b - x
    some (if down < up || (down = up && below % 2 = 0) then below else below + 1)
  | true, false => some below
  | false, true => some (below + 1)
  | false, false => none

/-- A power of ten that is certainly greater than the number. -/
def above (m : Magnitude) : Int := (Nat.log2 m.mantissa + m.exponent) * 30103 / 100000 + 2

/-- The decimal with the fewest digits that rounds to the number. Seventeen digits always
suffice, so twenty grids below a power of ten above the number are enough. -/
def shortest (m : Magnitude) : Digits :=
  let hits := (List.range 20).findSome? fun i =>
    let k := m.above - Int.ofNat i
    (m.onGrid? k).map fun c => (⟨c, k⟩ : Digits)
  hits.getD ⟨4 * m.mantissa, m.exponent⟩

end Magnitude

inductive Kind where
  | nan
  | infinite (negative : Bool)
  | zero (negative : Bool)
  | finite (negative : Bool) (magnitude : Magnitude)

def kind (x : Float) : Kind :=
  let bits := x.toBits.toNat
  let negative := bits / Nat.pow 2 63 = 1
  let biased := bits / Nat.pow 2 52 % Nat.pow 2 11
  let fraction := bits % Nat.pow 2 52
  if biased = 2047 then if fraction = 0 then .infinite negative else .nan
  else if biased = 0 then
    if fraction = 0 then .zero negative else .finite negative ⟨fraction, -1074, false⟩
  else
    .finite negative
      ⟨Nat.pow 2 52 + fraction, Int.ofNat biased - 1075, fraction = 0 && 1 < biased⟩

/-- Where a written number changes from positional to exponent notation. -/
structure Notation where
  /-- Smallest and largest place of the first digit, counted from the point, that is written
  positionally. -/
  firstPlace : Int × Int
  /-- The least number of digits of an exponent. -/
  exponentWidth : Nat

/-- Digits with their decimal point after the first `place` of them. -/
def positional (digits : Text) (place : Int) : Text :=
  if place ≤ 0 then '0' :: '.' :: (List.replicate (-place).toNat '0' ++ digits)
  else
    let n := place.toNat
    let whole := digits.take n ++ List.replicate (n - digits.length) '0'
    match digits.drop n with
    | [] => whole ++ ['.', '0']
    | rest => whole ++ '.' :: rest

/-- Digits with the point behind the first one, and a signed exponent. -/
def scientific (exponentWidth : Nat) (digits : Text) (place : Int) : Text :=
  let exponent := Text.ofNat (place - 1).natAbs
  let fraction := match digits.drop 1 with
    | [] => []
    | rest => '.' :: rest
  digits.take 1 ++ fraction ++ 'e' :: (if place < 1 then '-' else '+') ::
    (List.replicate (exponentWidth - exponent.length) '0' ++ exponent)

/-- A number in its shortest form: positional where the notation says so and always with a point
there, and `nan` and `inf` by name. -/
def write (style : Notation) (x : Float) : Text :=
  let sign (negative : Bool) : Text := if negative then ['-'] else []
  match kind x with
  | .nan => ['n', 'a', 'n']
  | .infinite s => sign s ++ ['i', 'n', 'f']
  | .zero s => sign s ++ ['0', '.', '0']
  | .finite s m =>
    let d := m.shortest
    let digits := Text.ofNat d.digits
    let place := digits.length + d.exponent
    sign s ++
      if style.firstPlace.1 ≤ place && place ≤ style.firstPlace.2 then positional digits place
      else scientific style.exponentWidth digits place

/-- The number `±digits · 10 ^ exponent`, correctly rounded. Numbers far outside the range of
double precision are recognised by their size, without computing the power. -/
def read (negative : Bool) (digits : Nat) (exponent : Int) : Float :=
  let size : Int := (Text.ofNat digits).length + exponent
  let x : Float :=
    if digits = 0 || size < -400 then 0.0
    else if 400 < size then 1.0 / 0.0
    else Float.ofScientific digits (exponent < 0) exponent.natAbs
  if negative then -x else x

end StoryBlanks.Decimal
