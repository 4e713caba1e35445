import StoryBlanks.Calendar
import StoryBlanks.Text.Codes
import StoryBlanks.Text.Numeral
import StoryBlanks.Text.Utf8

/-!
# Faults of a YAML document

Most faults make a document malformed, and nothing more is said about them. The others lie in a
scalar that has the right shape or an explicit tag but stands for no value, or in the bytes of the
document.
-/
namespace StoryBlanks.Yaml

inductive Fault where
  | malformed
  /-- A date or a time with a part that is out of range. -/
  | calendar (e : Calendar.RangeError)
  | numeral (e : Text.NumeralError)
  /-- Digits of a whole number with surrogates among them. -/
  | brokenNumeral (base : Nat) (codes : List Nat)
  /-- A number without a single character. -/
  | emptyNumber
  | notFloat (text : Text.Spelling)
  /-- A number in base sixty with a place that no floating-point number can hold. -/
  | hugePlace
  | notBool (text : Text.Spelling)
  | notTimestamp
  /-- A mapping where a date or a time should be. -/
  | mappingTimestamp
  /-- Collections that stand too deep in each other, or a mapping that stands for a scalar, which
  is the mapping again. -/
  | tooDeep
  /-- An escape for a number that is no character's. -/
  | noCharacter (code : Nat)
  | undecodable (e : Utf8.DecodeError)
  deriving DecidableEq, Repr

/-- What is said of a fault. What is wrong with a malformed document is told at length by the program
that reads it; here a mark stands for all of that. -/
def Fault.message : Fault → Text
  | .malformed => "<yaml error>"
  | .calendar e => e.message
  | .numeral e => e.message
  | .brokenNumeral base ns =>
    "invalid literal for int() with base " ++ Text.ofNat base ++ ": " ++
      (Text.quotedCodes ns).take Text.maxQuoted
  | .emptyNumber => "string index out of range"
  | .notFloat t => "could not convert string to float: " ++ t.quoted
  | .hugePlace => "int too large to convert to float"
  | .notBool t => t.quoted
  | .notTimestamp => "'NoneType' object has no attribute 'groupdict'"
  | .mappingTimestamp => "expected string or bytes-like object, got 'list'"
  | .tooDeep => "maximum recursion depth exceeded"
  | .noCharacter code =>
    if code < Nat.pow 2 31 then "chr() arg not in range(0x110000)"
    else "Python int too large to convert to C int"
  | .undecodable e => e.message

end StoryBlanks.Yaml
