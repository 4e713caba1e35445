import StoryBlanks.Text.Basic

/-!
# Blank characters

The characters that count as white space: where a line may be broken, and what is trimmed off
the ends of a text.
-/
namespace StoryBlanks.Text

/-- The Unicode white space characters together with the four separators U+001C to U+001F. -/
def isBlank (c : Char) : Bool :=
  let n := c.toNat
  (0x09 ≤ n && n ≤ 0x0D) || (0x1C ≤ n && n ≤ 0x20) || n == 0x85 || n == 0xA0 || n == 0x1680 ||
    (0x2000 ≤ n && n ≤ 0x200A) || n == 0x2028 || n == 0x2029 || n == 0x202F || n == 0x205F ||
    n == 0x3000

def trimLeft (cs : Text) : Text := cs.dropWhile isBlank

def trimRight (cs : Text) : Text := (cs.reverse.dropWhile isBlank).reverse

def trim (cs : Text) : Text := trimRight (trimLeft cs)

end StoryBlanks.Text
