import StoryBlanks.Text.Utf8

/-!
# Base 64

Bytes written with four letters for every three of them. Characters that are no letters of the
code are passed over, so lines may be broken anywhere; equals signs fill the last group.
-/
namespace StoryBlanks.Text.Base64

def sextet? (c : Char) : Option Nat :=
  if 'A' ≤ c && c ≤ 'Z' then some (c.toNat - 'A'.toNat)
  else if 'a' ≤ c && c ≤ 'z' then some (c.toNat - 'a'.toNat + 26)
  else if '0' ≤ c && c ≤ '9' then some (c.toNat - '0'.toNat + 52)
  else if c = '+' then some 62
  else if c = '/' then some 63
  else none

def completed (letters : List Nat) : Utf8.Bytes :=
  match letters with
  | [a, b] => [UInt8.ofNat (a * 4 + b / 16)]
  | [a, b, c] => [UInt8.ofNat (a * 4 + b / 16), UInt8.ofNat (b % 16 * 16 + c / 4)]
  | [a, b, c, d] =>
    [UInt8.ofNat (a * 4 + b / 16), UInt8.ofNat (b % 16 * 16 + c / 4), UInt8.ofNat (c % 4 * 64 + d)]
  | _ => []

/-- Reads on with the letters of the group so far and the equals signs behind them. Once a group is
filled up, nothing more is read. -/
def decodeFrom (letters : List Nat) (fill : Nat) : Text → Option Utf8.Bytes
  | [] => if letters.isEmpty then some [] else none
  | c :: cs =>
    if c = '=' then
      if letters.length < 2 then decodeFrom letters fill cs
      else if 4 ≤ letters.length + fill + 1 then some (completed letters)
      else decodeFrom letters (fill + 1) cs
    else
      match sextet? c with
      | none => decodeFrom letters fill cs
      | some x =>
        if letters.length = 3 then
          (decodeFrom [] 0 cs).map (completed (letters ++ [x]) ++ ·)
        else decodeFrom (letters ++ [x]) 0 cs

/-- The bytes that a text stands for, unless its last group is not full. -/
def decode? (cs : Text) : Option Utf8.Bytes := decodeFrom [] 0 cs

end StoryBlanks.Text.Base64
