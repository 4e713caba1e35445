import StoryBlanks.Value

/-!
# Line widths

A line width is a positive integer. `Width.ofValue` takes any value that a caller may hold for one
and says which width it is.
-/
namespace StoryBlanks

/-- A number of characters that a line may have. -/
structure Width where
  toNat : Nat
  positive : 0 < toNat := by omega
  deriving DecidableEq

namespace Width

structure Invalid where
  value : Value

def Invalid.message (e : Invalid) : Text :=
  "max_width must be a positive integer, got " ++ e.value.shown

def ofValue : Value → Except Invalid Width
  | .int (.ofNat (n + 1)) => .ok ⟨n + 1, Nat.succ_pos n⟩
  | v => .error ⟨v⟩

end Width
end StoryBlanks
