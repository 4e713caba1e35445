import StoryBlanks.Text.Printable

/-!
# Quoted texts

A text between quotes, as messages show file names and values. Single quotes are used unless the
text has a single quote and no double one. The backslash and the quote in use are escaped, and so
is every character that is not printable.
-/
namespace StoryBlanks.Text

/-- A number in lower-case hexadecimal, filled with zeros up to a width. -/
def hex (width n : Nat) : Text :=
  let digits := Nat.toDigits 16 n
  List.replicate (width - digits.length) '0' ++ digits

def quoteFor (cs : Text) : Char := if cs.contains '\'' && !cs.contains '"' then '"' else '\''

def escaped (quote c : Char) : Text :=
  if c = quote || c = '\\' then ['\\', c]
  else if c = '\n' then ['\\', 'n']
  else if c = '\r' then ['\\', 'r']
  else if c = '\t' then ['\\', 't']
  else if isPrintable c then [c]
  else if c.toNat < 0x100 then '\\' :: 'x' :: hex 2 c.toNat
  else if c.toNat < 0x10000 then '\\' :: 'u' :: hex 4 c.toNat
  else '\\' :: 'U' :: hex 8 c.toNat

def quoted (cs : Text) : Text :=
  let quote := quoteFor cs
  quote :: (cs.flatMap (escaped quote) ++ [quote])

end StoryBlanks.Text
