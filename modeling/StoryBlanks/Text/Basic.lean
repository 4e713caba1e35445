/-!
# Text

A text is the list of its characters, so every index, length and width counts code points and
the lemmas on lists apply. String literals are read as texts where a text is expected.
-/
namespace StoryBlanks

abbrev Text := List Char

scoped instance : Coe String Text := ⟨String.toList⟩

namespace Text

def ofNat (n : Nat) : Text := Nat.toDigits 10 n

def ofInt : Int → Text
  | .ofNat n => ofNat n
  | .negSucc n => '-' :: ofNat (n + 1)

/-- The pieces between the occurrences of a separator: always one more than there are. -/
def splitOn (sep : Char) : Text → List Text
  | [] => [[]]
  | c :: cs =>
    if c = sep then [] :: splitOn sep cs
    else match splitOn sep cs with
      | [] => [[c]]
      | piece :: pieces => (c :: piece) :: pieces

/-- Whether a text is at or before another in the order of code points. -/
def isAtMost : Text → Text → Bool
  | [], _ => true
  | _ :: _, [] => false
  | a :: s, b :: t => a.toNat < b.toNat || (a.toNat = b.toNat && isAtMost s t)

/-- Pieces put together with a separator between neighbours. -/
def joinWith (sep : Text) (pieces : List Text) : Text := (pieces.intersperse sep).flatten

/-- What follows a given beginning, if the text has it. -/
def after? : Text → Text → Option Text
  | [], cs => some cs
  | _ :: _, [] => none
  | p :: ps, c :: cs => if p = c then after? ps cs else none

/-- Every occurrence of a nonempty pattern replaced, left to right and without looking at what
was put in. An empty pattern occurs nowhere. -/
def replace (pattern new : Text) (cs : Text) : Text :=
  go cs.length cs
where
  go : Nat → Text → Text
    | 0, cs => cs
    | _ + 1, [] => []
    | n + 1, c :: cs =>
      match pattern, after? pattern (c :: cs) with
      | _ :: _, some rest => new ++ go n rest
      | _, _ => c :: go n cs

def padRight (width : Nat) (cs : Text) : Text := cs ++ List.replicate (width - cs.length) ' '

def padLeft (width : Nat) (cs : Text) : Text := List.replicate (width - cs.length) ' ' ++ cs

end Text
end StoryBlanks
