import StoryBlanks.Text.Base64
import StoryBlanks.Text.Casing
import StoryBlanks.Text.Newline
import StoryBlanks.Value
import StoryBlanks.Yaml.Fault
import StoryBlanks.Yaml.Tag

/-!
# Atoms

The values of scalars: what the text of a scalar stands for under the tag that it has. A tag may be
given to any text, so a text need not have the form that goes with its tag; then it stands for no
value.
-/
namespace StoryBlanks.Yaml.Atom

def withoutUnderscores (cs : Text) : Text := cs.filter (· ≠ '_')

def bool (cs : Text) : Except Fault Value :=
  let lower := Text.toLower cs
  if Tag.truths.contains lower then .ok (.bool true)
  else if Tag.falsehoods.contains lower then .ok (.bool false)
  else .error (.notBool (.text lower))

def numeral (base : Nat) (cs : Text) : Except Fault Int :=
  (Text.toInt base cs).mapError .numeral

def int (cs : Text) : Except Fault Value := do
  let cs := withoutUnderscores cs
  if cs.isEmpty then throw .emptyNumber
  let (negative, digits) := Text.splitSign cs
  let n ← match digits with
    | [] => throw .emptyNumber
    | '0' :: 'b' :: ds => numeral 2 ds
    | '0' :: 'x' :: ds => numeral 16 ds
    | '0' :: ds => numeral 8 ('0' :: ds)
    | ds =>
      if ds.contains ':' then do
        let parts ← (Text.splitOn ':' ds).mapM (numeral 10)
        pure (parts.foldl (fun n part => n * 60 + part) 0)
      else numeral 10 ds
  return .int (if negative then -n else n)

def decimal? (negative : Bool) (cs : Text) : Option Float := do
  let (mantissa, exponent) := match cs.span (· ≠ 'e') with
    | (m, _ :: e) => (m, some e)
    | (m, []) => (m, none)
  let (whole, fraction) := match mantissa.span (· ≠ '.') with
    | (w, _ :: f) => (w, f)
    | (w, []) => (w, [])
  let digits ← (whole ++ fraction).mapM Text.digit?
  if digits.isEmpty then none
  let power ← match exponent with
    | none => some 0
    | some e =>
      let (minus, ds) := Text.splitSign e
      let ds ← ds.mapM Text.digit?
      if ds.isEmpty then none
      let n := ds.foldl (fun n d => n * 10 + d) 0
      some (if minus then -Int.ofNat n else Int.ofNat n)
  return Decimal.read negative (digits.foldl (fun n d => n * 10 + d) 0)
    (power - Int.ofNat fraction.length)

def infinity (negative : Bool) : Float := if negative then -(1.0 / 0.0) else 1.0 / 0.0

def nan : Float := 0.0 / 0.0

/-- A floating-point number in lower case, with blanks around it and a sign. -/
def float? (cs : Text) : Option Float :=
  let stripped (cs : Text) := cs.dropWhile Text.isNumeralBlank
  let (negative, cs) := Text.splitSign (stripped (stripped cs).reverse).reverse
  if cs == "inf".toList || cs == "infinity".toList then some (infinity negative)
  else if cs == "nan".toList then some nan
  else decimal? negative cs

/-- The places of a number in base sixty added up, the smallest first. -/
def sixtieths : List Float → Nat → Float → Except Fault Float
  | [], _, x => .ok x
  | part :: parts, place, x =>
    if Nat.pow 2 1024 ≤ place then .error .hugePlace
    else sixtieths parts (place * 60) (x + part * Decimal.read false place 0)

/-- The text of a floating-point number as it is read: its sign, and the rest in lower case. -/
def floatParts (cs : Text) : Bool × Text := Text.splitSign (Text.toLower (withoutUnderscores cs))

def isNamedNaN (cs : Text) : Bool := (floatParts cs).2 == ".nan".toList

def float (cs : Text) : Except Fault Value := do
  if (withoutUnderscores cs).isEmpty then throw .emptyNumber
  let (negative, cs) := floatParts cs
  let number (cs : Text) : Except Fault Float :=
    match float? cs with
    | some x => .ok x
    | none => .error (.notFloat (.text cs))
  let x ←
    if cs == ".inf".toList then pure (infinity false)
    else if cs == ".nan".toList then pure nan
    else if cs.contains ':' then do
      let parts ← (Text.splitOn ':' cs).mapM number
      sixtieths parts.reverse 1 0.0
    else number cs
  return .float (if negative then -x else x)

def natural (cs : Text) : Nat := cs.foldl (fun n c => n * 10 + (c.toNat - '0'.toNat)) 0

/-- A fraction of a second in microseconds. Digits behind the sixth are not looked at. -/
def microseconds (fraction : Text) : Nat := natural ((fraction ++ List.replicate 6 '0').take 6)

def timestamp (cs : Text) : Except Fault Value :=
  match Tag.written? (Text.chopped cs) with
  | none => .error .notTimestamp
  | some w =>
    let (year, month, day) := (natural w.year, natural w.month, natural w.day)
    match w.clock with
    | none => ((Calendar.date year month day).map Value.date).mapError .calendar
    | some (hour, minute, second, fraction) =>
      let offset := w.zone.map fun (sign, hours, minutes) =>
        let span := Int.ofNat (natural hours * 60 + natural minutes)
        if sign = '-' then -span else span
      ((Calendar.moment year month day (natural hour) (natural minute) (natural second)
        (microseconds fraction) offset).map Value.moment).mapError .calendar

def binary (cs : Text) : Except Fault Value :=
  match if cs.all (·.toNat < 0x80) then Text.Base64.decode? cs else none with
  | some bs => .ok (.bytes bs)
  | none => .error .malformed

def value (tag : Tag) (cs : Text) : Except Fault Value :=
  match tag with
  | .null => .ok .null
  | .bool => bool cs
  | .int => int cs
  | .float => float cs
  | .timestamp => timestamp cs
  | .text => .ok (.text cs)
  | .binary => binary cs
  | .list | .pairs | .set | .mapping | .merge | .default | .unknown => .error .malformed

/-! ## Spellings with surrogates

Only a text may have surrogates. What is told of a number is the first part that is none. -/

/-- Code points in lower case. A surrogate is no letter, and letters on its two sides do not see
each other. -/
def lowerCodes (ns : List Nat) : List Nat :=
  go [] ns
where
  /-- `run` is the text since the last surrogate, backwards. -/
  go (run : Text) : List Nat → List Nat
    | [] => Text.codes (Text.toLower run.reverse)
    | n :: ns =>
      if Text.isSurrogate n then Text.codes (Text.toLower run.reverse) ++ n :: go [] ns
      else go (Char.ofNat n :: run) ns

/-- Code points as a text in which a character that is no part of any number stands for every
surrogate. -/
def masked (ns : List Nat) : Text :=
  ns.map fun n => if Text.isSurrogate n then '\ufffd' else Char.ofNat n

def parts (ns : List Nat) : List (List Nat) :=
  let (part, parts) := ns.foldr
    (fun n (part, parts) => if n = ':'.toNat then ([], part :: parts) else (n :: part, parts))
    (([] : List Nat), ([] : List (List Nat)))
  part :: parts

/-- Code points without underscores, and without a sign in front. -/
def bare (ns : List Nat) : List Nat :=
  let ns := ns.filter (· ≠ '_'.toNat)
  if ns.head? = some '+'.toNat || ns.head? = some '-'.toNat then ns.drop 1 else ns

def digitsFault? (base : Nat) (ns : List Nat) : Option Fault :=
  match Text.toInt base (masked ns), Text.Spelling.ofCodes ns with
  | .ok _, _ => none
  | .error (.invalid ..), .broken ns => some (.brokenNumeral base ns)
  | .error e, _ => some (.numeral e)

/-- What is wrong with a whole number that holds a surrogate. -/
def intFault (ns : List Nat) : Fault :=
  let ns := bare ns
  let fault? := match masked ns with
    | '0' :: 'b' :: _ => digitsFault? 2 (ns.drop 2)
    | '0' :: 'x' :: _ => digitsFault? 16 (ns.drop 2)
    | '0' :: _ => digitsFault? 8 ns
    | _ => (parts ns).findSome? (digitsFault? 10)
  fault?.getD .malformed

/-- What is wrong with a floating-point number that holds a surrogate. -/
def floatFault (ns : List Nat) : Fault :=
  let fault? (part : List Nat) : Option Fault :=
    match float? (masked part) with
    | some _ => none
    | none => some (.notFloat (.ofCodes part))
  ((parts (lowerCodes (bare ns))).findSome? fault?).getD .malformed

def brokenValue (tag : Tag) (ns : List Nat) : Except Fault Value :=
  match tag with
  | .null => .ok .null
  | .bool => .error (.notBool (.broken (lowerCodes ns)))
  | .int => .error (intFault ns)
  | .float => .error (floatFault ns)
  | .timestamp => .error .notTimestamp
  | .text => .ok (.broken ns)
  | _ => .error .malformed

def ofSpelling (tag : Tag) : Text.Spelling → Except Fault Value
  | .text cs => value tag cs
  | .broken ns => brokenValue tag ns

end StoryBlanks.Yaml.Atom
