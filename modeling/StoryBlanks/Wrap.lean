import StoryBlanks.Text.Blank

/-!
# Word wrap

Text is broken at a width by turning blanks into newlines; nothing is added or taken away. The
text is read once: when a character would stand past the width, the last blank of its line
becomes a newline, and the line goes on from behind it. A line without a blank runs over, and
`Layout.overflow` counts the characters that stand past the width.
-/
namespace StoryBlanks.Wrap

open Text (isBlank)

/-- What has been laid out so far, newest character first.

* `closed`: everything up to the current line, its newline included;
* `line`: the current line, of `column` characters;
* `sinceBlank`: how many characters of it follow its last blank, if it has one to break at;
* `overflow`: characters that were left past the width. -/
structure Layout where
  closed : Text := []
  line : Text := []
  column : Nat := 0
  sinceBlank : Option Nat := none
  overflow : Nat := 0
  deriving DecidableEq, Repr

namespace Layout

def newline (s : Layout) : Layout :=
  { closed := '\n' :: (s.line ++ s.closed), overflow := s.overflow }

/-- Puts a character at the end of the current line, and remembers it if it is a blank. -/
def push (s : Layout) (c : Char) : Layout :=
  { s with
    line := c :: s.line
    column := s.column + 1
    sinceBlank := if isBlank c then some 0 else s.sinceBlank.map (· + 1) }

/-- Turns the blank that is followed by `n` characters of the current line into a newline. -/
def breakAt (s : Layout) (n : Nat) : Layout :=
  { closed := '\n' :: (s.line.drop (n + 1) ++ s.closed)
    line := s.line.take n
    column := n
    overflow := s.overflow }

def step (width : Nat) (s : Layout) (c : Char) : Layout :=
  if c = '\n' then s.newline
  else
    let t := s.push c
    if s.column < width then t
    else match t.sinceBlank with
      | some n => t.breakAt n
      | none => { t with overflow := t.overflow + 1 }

def text (s : Layout) : Text := (s.line ++ s.closed).reverse

end Layout

def layout (width : Nat) (t : Text) : Layout := t.foldl (Layout.step width) {}

def wrap (width : Nat) (t : Text) : Text := (layout width t).text

end StoryBlanks.Wrap
