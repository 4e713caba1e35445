import StoryBlanks.Text.Blank
import StoryBlanks.Text.Digit
import StoryBlanks.Text.Quoted

/-!
# Numerals

Whole numbers as people type them: blanks around the number, one sign, digits of any script with
single underscores between them and, in base two, eight and sixteen, the usual two-character mark
in front of the digits.
-/
namespace StoryBlanks.Text

inductive NumeralError where
  | invalid (base : Nat) (text : Text)
  | tooLong (digits : Nat)
  deriving DecidableEq, Repr

/-- The most digits that a decimal numeral may have. -/
def maxDigits : Nat := 4300

/-- The most characters of a quoted text that are shown in the message on an invalid numeral. -/
def maxQuoted : Nat := 200

def NumeralError.message : NumeralError → Text
  | .invalid base text =>
    "invalid literal for int() with base " ++ ofNat base ++ ": " ++ (quoted text).take maxQuoted
  | .tooLong digits =>
    "Exceeds the limit (" ++ ofNat maxDigits ++ " digits) for integer string conversion: value has "
      ++ ofNat digits ++ " digits; use sys.set_int_max_str_digits() to increase the limit"

/-- The blanks that may surround a number: all but the four separators U+001C to U+001F. -/
def isNumeralBlank (c : Char) : Bool := isBlank c && !(0x1C ≤ c.toNat && c.toNat ≤ 0x1F)

def digitIn? (base : Nat) (c : Char) : Option Nat :=
  let n := c.toNat
  let value :=
    if 'a'.toNat ≤ n && n ≤ 'z'.toNat then some (n - 'a'.toNat + 10)
    else if 'A'.toNat ≤ n && n ≤ 'Z'.toNat then some (n - 'A'.toNat + 10)
    else digit? c
  value.filter (· < base)

/-- A run of digits: its value, how many digits it has, and what follows. -/
structure DigitRun where
  value : Nat
  count : Nat
  rest : Text

/-- Reads on in a run of digits. An underscore must stand between two of them. -/
def digitRun? (base value count : Nat) : Text → Option DigitRun
  | [] => some ⟨value, count, []⟩
  | c :: cs =>
    if c = '_' then
      match cs with
      | [] => none
      | d :: ds =>
        match digitIn? base d with
        | some x => digitRun? base (value * base + x) (count + 1) ds
        | none => none
    else
      match digitIn? base c with
      | some x => digitRun? base (value * base + x) (count + 1) cs
      | none => some ⟨value, count, c :: cs⟩

/-- The letters that may follow a zero to announce a base. -/
def baseMarks : Nat → List Char
  | 2 => ['b', 'B']
  | 8 => ['o', 'O']
  | 16 => ['x', 'X']
  | _ => []

/-- What follows the mark of a base and one underscore after it, or the whole text where there is
no mark. -/
def afterBaseMark (base : Nat) : Text → Text
  | '0' :: m :: cs =>
    if (baseMarks base).contains m then
      match cs with
      | '_' :: ds => ds
      | ds => ds
    else '0' :: m :: cs
  | cs => cs

/-- Takes an optional sign off a text and tells whether it was a minus. -/
def splitSign : Text → Bool × Text
  | '-' :: cs => (true, cs)
  | '+' :: cs => (false, cs)
  | cs => (false, cs)

def toInt (base : Nat) (cs : Text) : Except NumeralError Int :=
  let (negative, unsigned) := splitSign (cs.dropWhile isNumeralBlank)
  let digits := afterBaseMark base unsigned
  match digits.head?.bind (digitIn? base), digitRun? base 0 0 digits with
  | some _, some run =>
    if (baseMarks base).isEmpty && maxDigits < run.count then .error (.tooLong run.count)
    else if run.rest.all isNumeralBlank then
      .ok (if negative then -Int.ofNat run.value else Int.ofNat run.value)
    else .error (.invalid base cs)
  | _, _ => .error (.invalid base cs)

end StoryBlanks.Text
