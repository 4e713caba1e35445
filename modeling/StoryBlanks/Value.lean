import StoryBlanks.Calendar
import StoryBlanks.Decimal.Shortest
import StoryBlanks.Text.Codes
import StoryBlanks.Text.Numeral
import StoryBlanks.Text.Utf8

/-!
# Values

What a data file can hold: nothing, truth values, numbers, texts, bytes, dates, lists, pairs, sets
and mappings. A value that contains itself is held down to the place where it would start again.

Every value has two texts. `toText` is the one used for titles and versions; `shown` is the one that
stands inside lists, mappings and messages, where texts are quoted. A value with a whole number of
too many digits has neither, as `isWritable` says.
-/
namespace StoryBlanks

inductive Value where
  | null
  | bool (b : Bool)
  | int (n : Int)
  | float (x : Float)
  | text (cs : Text)
  /-- What would be a text but for its surrogates, by code points. -/
  | broken (codes : List Nat)
  | bytes (bs : Utf8.Bytes)
  | date (d : Calendar.Date)
  | moment (m : Calendar.Moment)
  | list (items : List Value)
  | pair (first second : Value)
  | set (members : List Value)
  | mapping (entries : List (Value × Value))
  /-- A list that contains the place where it stands. -/
  | sameList
  /-- A mapping that contains the place where it stands. -/
  | sameMapping
  deriving Inhabited

namespace Value

/-- Numbers are positional while their first digit stands between the third place after the point
and the sixteenth before it, and exponents have at least two digits. -/
def floatNotation : Decimal.Notation := ⟨(-3, 16), 2⟩

/-- One byte between quotes. Bytes outside the printable ASCII characters are escaped. -/
def shownByte (quote : Char) (b : UInt8) : Text :=
  let c := Char.ofNat b.toNat
  if c = quote || c = '\\' then ['\\', c]
  else if c = '\n' then ['\\', 'n']
  else if c = '\r' then ['\\', 'r']
  else if c = '\t' then ['\\', 't']
  else if 0x20 ≤ b && b < 0x7F then [c]
  else '\\' :: 'x' :: Text.hex 2 b.toNat

def shownBytes (bs : Utf8.Bytes) : Text :=
  let quote := Text.quoteFor (bs.map fun b => Char.ofNat b.toNat)
  'b' :: quote :: (bs.flatMap (shownByte quote) ++ [quote])

mutual

def shown : Value → Text
  | .null => "None"
  | .bool true => "True"
  | .bool false => "False"
  | .int n => Text.ofInt n
  | .float x => Decimal.write floatNotation x
  | .text cs => Text.quoted cs
  | .broken ns => Text.quotedCodes ns
  | .bytes bs => shownBytes bs
  | .date d => d.shown
  | .moment m => m.shown
  | .list items => '[' :: (Text.joinWith ", " (shownAll items) ++ [']'])
  | .pair a b => '(' :: (a.shown ++ ", " ++ b.shown ++ [')'])
  | .set members =>
    if members.isEmpty then "set()"
    else '\x7b' :: (Text.joinWith ", " (shownAll members) ++ ['\x7d'])
  | .mapping entries => '\x7b' :: (Text.joinWith ", " (shownEntries entries) ++ ['\x7d'])
  | .sameList => "[...]"
  | .sameMapping => "\x7b...\x7d"

def shownAll : List Value → List Text
  | [] => []
  | v :: vs => v.shown :: shownAll vs

def shownEntries : List (Value × Value) → List Text
  | [] => []
  | (k, v) :: es => (k.shown ++ ": " ++ v.shown) :: shownEntries es

end

/-- The value as a text: a text is itself, a date has its plain form, all else is as shown. -/
def toText : Value → Text.Spelling
  | .text cs => .text cs
  | .broken ns => .broken ns
  | .date d => .text d.text
  | .moment m => .text m.text
  | v => .text v.shown

mutual

/-- Whether no whole number in the value has more digits than a text may have. -/
def isWritable : Value → Bool
  | .int n => (Text.ofNat n.natAbs).length ≤ Text.maxDigits
  | .list items => allWritable items
  | .pair a b => a.isWritable && b.isWritable
  | .set members => allWritable members
  | .mapping entries => entriesWritable entries
  | _ => true

def allWritable : List Value → Bool
  | [] => true
  | v :: vs => v.isWritable && allWritable vs

def entriesWritable : List (Value × Value) → Bool
  | [] => true
  | (k, v) :: es => k.isWritable && v.isWritable && entriesWritable es

end

/-- Whether the value counts as something: not null, false, zero or empty. -/
def truthy : Value → Bool
  | .null => false
  | .bool b => b
  | .int n => n ≠ 0
  | .float x => !(x == 0.0)
  | .text cs => !cs.isEmpty
  | .broken ns => !ns.isEmpty
  | .bytes bs => !bs.isEmpty
  | .date _ | .moment _ => true
  | .list items => !items.isEmpty
  | .pair .. => true
  | .set members => !members.isEmpty
  | .mapping entries => !entries.isEmpty
  | .sameList | .sameMapping => true

def ofSpelling : Text.Spelling → Value
  | .text cs => .text cs
  | .broken ns => .broken ns

end Value
end StoryBlanks
