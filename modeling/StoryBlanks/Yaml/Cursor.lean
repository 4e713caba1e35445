import StoryBlanks.Yaml.Fault

/-!
# Reading a text with its layout

A cursor is a place in a text that knows its line and column, which decide about structure in YAML.
The end of a text reads as a null character, which no document holds. A text may also break off,
with a fault that shows once something behind it is looked at. `Scan` is the reading of a part of a
text from a cursor on.
-/
namespace StoryBlanks.Yaml

def isBreak (c : Char) : Bool := c = '\n' || c = '\x85' || c = '\u2028' || c = '\u2029'

def endsLine (c : Char) : Bool := c = '\x00' || isBreak c

def endsWord (c : Char) : Bool := c = ' ' || endsLine c

/-- What must follow a character for it to be an indicator. -/
def isGap (c : Char) : Bool := c = '\t' || endsWord c

def isSpaceOrTab (c : Char) : Bool := c = ' ' || c = '\t'

def isWordChar (c : Char) : Bool := c.isAlphanum || c = '-' || c = '_'

def isHexDigit (c : Char) : Bool :=
  c.isDigit || ('a' ≤ c && c ≤ 'f') || ('A' ≤ c && c ≤ 'F')

def hexValue (digits : Text) : Nat :=
  digits.foldl (fun n c => n * 16 + (Text.digitIn? 16 c).getD 0) 0

/-- A text as far as it can be read, and what breaks it off. Without a fault it ends there. -/
structure Source where
  text : Text
  beyond : Option Fault := none

/-- A place in a text of some size: what is left of the text, and what lies behind the place. -/
structure Cursor where
  rest : Text
  size : Nat := rest.length
  beyond : Option Fault := none
  index : Nat := 0
  line : Nat := 0
  column : Nat := 0

namespace Cursor

def peek (c : Cursor) (distance : Nat) : Except Fault Char :=
  match c.rest.drop distance, c.beyond with
  | x :: _, _ => .ok x
  | [], none => .ok '\x00'
  | [], some fault => .error fault

/-- A number of characters from the cursor on, or fewer where the text ends. -/
def take (c : Cursor) (n : Nat) : Except Fault Text :=
  let cs := c.rest.take n
  match c.beyond with
  | some fault => if cs.length < n then .error fault else .ok cs
  | none => .ok cs

/-- A byte order mark takes up no column. -/
def next (c : Cursor) : Cursor :=
  match c.rest with
  | [] => c
  | x :: xs =>
    if isBreak x then
      { c with rest := xs, index := c.index + 1, line := c.line + 1, column := 0 }
    else
      { c with
        rest := xs
        index := c.index + 1
        column := if x = '\ufeff' then c.column else c.column + 1 }

def forward (c : Cursor) : Nat → Cursor
  | 0 => c
  | n + 1 => c.next.forward n

/-- Passes over a number of characters. One more than those is looked at. -/
def skip (c : Cursor) (n : Nat) : Except Fault Cursor := do
  if n ≠ 0 then
    let _ ← c.take (n + 1)
  return c.forward n

end Cursor

abbrev Scan := StateT Cursor (Except Fault)

namespace Scan

def malformed {α : Type} : Scan α := throw .malformed

def require (condition : Bool) : Scan Unit := if condition then pure () else malformed

def peek (distance : Nat := 0) : Scan Char := do (← get).peek distance

def column : Scan Nat := return (← get).column

/-- How many characters are left, which bounds the number of rounds of every loop. -/
def left : Scan Nat := return (← get).size - (← get).index

def skip (n : Nat := 1) : Scan Unit := do set (← (← get).skip n)

/-- The longest run of characters of a kind. The character behind it is looked at. -/
def run (p : Char → Bool) : Scan Text := do
  let cs := (← get).rest.takeWhile p
  let _ ← peek cs.length
  return cs

def takeWhile (p : Char → Bool) : Scan Text := do
  let taken ← run p
  skip taken.length
  return taken

def dropWhile (p : Char → Bool) : Scan Unit := do
  let _ ← takeWhile p

/-- Takes one line break, if there is one. All but the two Unicode separators read as a line
feed. -/
def lineBreak : Scan Text := do
  let c ← peek
  if isBreak c then
    skip
    return [if c = '\x85' then '\n' else c]
  else return []

def comment : Scan Unit := do
  if (← peek) = '#' then dropWhile (!endsLine ·)

/-- The rest of a line that may hold nothing more but a comment. -/
def lineRest : Scan Unit := do
  dropWhile (· = ' ')
  comment
  require (endsLine (← peek))
  let _ ← lineBreak

def atMark (marks : List Text) : Scan Bool := do
  if marks.contains (← (← get).take 3) then return isGap (← peek 3) else return false

/-- Whether a line of three hyphens or three dots begins here. -/
def atDocumentMark : Scan Bool := atMark ["---", "..."]

end Scan
end StoryBlanks.Yaml
