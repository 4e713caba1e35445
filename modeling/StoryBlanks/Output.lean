import StoryBlanks.Text.Codes
import StoryBlanks.Text.Numeral

/-!
# Outputs

The output that lines are written to is given from outside. It takes every text as it is. What is
spelled with surrogates is no text, and one output may refuse it where another one writes something
in its place. A line that is refused is not written at all, and those before it stay.
-/
namespace StoryBlanks

/-- The first surrogates of a spelling and the place of the first one. -/
structure Unencodable where
  start : Nat
  codes : List Nat
  deriving DecidableEq, Repr

def Unencodable.message (e : Unencodable) : Text :=
  (match e.codes with
    | [code] =>
      "'utf-8' codec can't encode character '\\u" ++ Text.hex 4 code ++ "' in position " ++
        Text.ofNat e.start
    | codes =>
      "'utf-8' codec can't encode characters in position " ++ Text.ofNat e.start ++ "-" ++
        Text.ofNat (e.start + codes.length - 1)) ++ ": surrogates not allowed"

structure Output where
  write : Text.Spelling → Except Unencodable Text
  write_text : ∀ cs, write (.text cs) = .ok cs

namespace Output

/-- The usual output, which refuses every surrogate. -/
def strict : Output where
  write
    | .text cs => .ok cs
    | .broken ns =>
      match Text.ofCodes? ns with
      | some cs => .ok cs
      | none =>
        let (before, rest) := ns.span (!Text.isSurrogate ·)
        .error ⟨before.length, rest.takeWhile Text.isSurrogate⟩
  write_text _ := rfl

/-- Writes lines one after the other, up to the first one that is refused. -/
def print (o : Output) : List Text.Spelling → Text × Option Unencodable
  | [] => ([], none)
  | line :: lines =>
    match o.write line with
    | .error e => ([], some e)
    | .ok text =>
      let (rest, refused) := o.print lines
      (text ++ '\n' :: rest, refused)

end Output
end StoryBlanks
