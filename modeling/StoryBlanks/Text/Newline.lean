import StoryBlanks.Text.Basic

/-!
# Line ends

Texts from outside may end a line with a carriage return, with or without a line feed behind it.
Inside, every line ends with a line feed.
-/
namespace StoryBlanks.Text

/-- Every line end as a line feed. -/
def unifyNewlines : Text → Text
  | [] => []
  | '\r' :: '\n' :: cs => '\n' :: unifyNewlines cs
  | c :: cs => (if c = '\r' then '\n' else c) :: unifyNewlines cs

/-- The lines of a text, each with its line feed, and what follows the last line feed. -/
def cutLines : Text → List Text × Text
  | [] => ([], [])
  | c :: cs =>
    let (lines, last) := cutLines cs
    if c = '\n' then (['\n'] :: lines, last)
    else match lines with
      | [] => ([], c :: last)
      | l :: ls => ((c :: l) :: ls, last)

/-- A text without the line feed that it may end with. -/
def chopped (cs : Text) : Text :=
  match cs.reverse with
  | '\n' :: rest => rest.reverse
  | _ => cs

end StoryBlanks.Text
