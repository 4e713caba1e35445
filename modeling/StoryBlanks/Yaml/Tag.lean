import StoryBlanks.Text.Newline
import StoryBlanks.Yaml.Cursor

/-!
# Tags

A tag says what kind of value a node is. A plain scalar without one gets it from its text:
`Tag.ofPlain` knows the forms of truth values, numbers, dates and so on, and everything else is a
text.
-/
namespace StoryBlanks.Yaml

inductive Tag where
  | null
  | bool
  | int
  | float
  | timestamp
  | text
  | binary
  | list
  /-- A list of mappings with one entry each, which are read as pairs. -/
  | pairs
  | set
  | mapping
  /-- The key that takes in the entries of other mappings. -/
  | merge
  /-- The key whose value stands for the whole mapping where a scalar is wanted. -/
  | default
  | unknown
  deriving DecidableEq, Repr

namespace Tag

def core : Text := "tag:yaml.org,2002:"

def names : List (Text × Tag) := [
  ("null", null), ("bool", bool), ("int", int), ("float", float), ("timestamp", timestamp),
  ("str", text), ("binary", binary), ("seq", list), ("omap", pairs), ("pairs", pairs), ("set", set),
  ("map", mapping), ("merge", merge), ("value", default)]

def ofText (cs : Text) : Tag :=
  ((Text.after? core cs).bind fun name => names.lookup name).getD unknown

/-! ## The forms of plain scalars

Each form takes a text that it must match as a whole. -/

def nulls : List Text := ["~", "null", "Null", "NULL", ""]

def truths : List Text := ["yes", "Yes", "YES", "true", "True", "TRUE", "on", "On", "ON"]

def falsehoods : List Text := ["no", "No", "NO", "false", "False", "FALSE", "off", "Off", "OFF"]

def isDigits (cs : Text) : Bool := !cs.isEmpty && cs.all Char.isDigit

def isDigitOrUnderscore (c : Char) : Bool := c.isDigit || c = '_'

def isOctal (c : Char) : Bool := ('0' ≤ c && c ≤ '7') || c = '_'

def unsigned : Text → Text
  | '+' :: cs => cs
  | '-' :: cs => cs
  | cs => cs

/-- One or more groups of a colon and a number below sixty, the first digit of which may be left
out. -/
def isSixtieths : Text → Bool
  | [':', a] => a.isDigit
  | ':' :: a :: b :: cs =>
    if b.isDigit then '0' ≤ a && a ≤ '5' && (cs.isEmpty || isSixtieths cs)
    else a.isDigit && isSixtieths (b :: cs)
  | _ => false

def isInt (cs : Text) : Bool :=
  match unsigned cs with
  | '0' :: 'b' :: ds => !ds.isEmpty && ds.all fun d => d = '0' || d = '1' || d = '_'
  | '0' :: 'x' :: ds => !ds.isEmpty && ds.all fun d => isHexDigit d || d = '_'
  | '0' :: ds => ds.all isOctal
  | d :: ds =>
    d.isDigit && (let rest := ds.dropWhile isDigitOrUnderscore; rest.isEmpty || isSixtieths rest)
  | [] => false

/-- A power of ten, whose sign is never left out. -/
def isExponent : Text → Bool
  | e :: sign :: cs => (e = 'e' || e = 'E') && (sign = '+' || sign = '-') && isDigits cs
  | _ => false

/-- What may follow the decimal point of a number. -/
def isFraction (cs : Text) : Bool :=
  let rest := cs.dropWhile isDigitOrUnderscore
  rest.isEmpty || isExponent rest

def isFloat (cs : Text) : Bool :=
  match cs with
  | '.' :: d :: ds => (d.isDigit && isFraction ds) || isNamed (d :: ds) || isNaN (d :: ds)
  | _ =>
    match unsigned cs with
    | '.' :: ds => isNamed ds
    | d :: ds =>
      let rest := ds.dropWhile isDigitOrUnderscore
      d.isDigit &&
        match rest with
        | '.' :: fraction => isFraction fraction
        | _ =>
          match rest.span (· ≠ '.') with
          | (sixtieths, '.' :: fraction) =>
            isSixtieths sixtieths && fraction.all isDigitOrUnderscore
          | _ => false
    | [] => false
where
  isNamed (ds : Text) : Bool := ([("inf" : Text), "Inf", "INF"]).contains ds
  isNaN (ds : Text) : Bool := ([("nan" : Text), "NaN", "NAN"]).contains ds

/-- The parts of a moment as they are written; a part that is left out is empty. -/
structure Written where
  year : Text
  month : Text
  day : Text
  /-- Hour, minute, second and fraction. -/
  clock : Option (Text × Text × Text × Text)
  /-- A sign or the letter for universal time, hours and minutes. -/
  zone : Option (Char × Text × Text)

/-- The first one or two digits of a text, two if there are, and what follows. -/
def oneOrTwo : Text → Option (Text × Text)
  | a :: b :: cs =>
    if a.isDigit then if b.isDigit then some ([a, b], cs) else some ([a], b :: cs) else none
  | [a] => if a.isDigit then some ([a], []) else none
  | [] => none

def exactly (n : Nat) (cs : Text) : Option (Text × Text) :=
  if (cs.take n).length = n && (cs.take n).all Char.isDigit then some (cs.take n, cs.drop n)
  else none

def expect (c : Char) : Text → Option Text
  | [] => none
  | d :: cs => if c = d then some cs else none

/-- An offset from universal time, which must end the text. -/
def zone? (cs : Text) : Option (Option (Char × Text × Text)) :=
  match cs.dropWhile isSpaceOrTab with
  | [] => if cs.isEmpty then some none else none
  | ['Z'] => some (some ('Z', [], []))
  | sign :: ds =>
    if sign = '+' || sign = '-' then do
      let (hours, rest) ← oneOrTwo ds
      if rest.isEmpty then return some (sign, hours, [])
      let (minutes, rest) ← exactly 2 (← expect ':' rest)
      if rest.isEmpty then return some (sign, hours, minutes) else none
    else none

def written? (cs : Text) : Option Written := do
  let (year, cs) ← exactly 4 cs
  let (month, cs) ← oneOrTwo (← expect '-' cs)
  let (day, cs) ← oneOrTwo (← expect '-' cs)
  match cs with
  | [] => return ⟨year, month, day, none, none⟩
  | c :: rest =>
    let cs := if c = 'T' || c = 't' then rest else (c :: rest).dropWhile isSpaceOrTab
    if !(c = 'T' || c = 't' || isSpaceOrTab c) then none
    let (hour, cs) ← oneOrTwo cs
    let (minute, cs) ← exactly 2 (← expect ':' cs)
    let (second, cs) ← exactly 2 (← expect ':' cs)
    let (fraction, cs) := match cs with
      | '.' :: ds => (ds.takeWhile Char.isDigit, ds.dropWhile Char.isDigit)
      | _ => ([], cs)
    return ⟨year, month, day, some (hour, minute, second, fraction), ← zone? cs⟩

/-- A date alone must have two digits for its month and its day. -/
def isTimestamp (cs : Text) : Bool :=
  match written? cs with
  | none => false
  | some w => w.clock.isSome || (w.month.length = 2 && w.day.length = 2)

/-- The tag of a plain scalar. One line feed at its end is not looked at. -/
def ofPlain (cs : Text) : Tag :=
  let form := Text.chopped cs
  if (truths ++ falsehoods).contains form then bool
  else if isFloat form then float
  else if isInt form then int
  else if form == ['<', '<'] then merge
  else if cs.isEmpty || (!form.isEmpty && nulls.contains form) then null
  else if isTimestamp form then timestamp
  else if form == ['='] then default
  else if [['!'], ['&'], ['*']].contains form then unknown
  else text

/-- The tag of a plain scalar. Surrogates make it a text. -/
def ofSpelling : Text.Spelling → Tag
  | .text cs => ofPlain cs
  | .broken _ => text

end Tag
end StoryBlanks.Yaml
