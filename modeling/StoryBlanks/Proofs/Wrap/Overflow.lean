import StoryBlanks.Round
import StoryBlanks.Proofs.Round.Playing
import StoryBlanks.Proofs.Wrap.Laying

/-!
# Characters past the width

A character is counted against the line that is open when it is read, and some lines are broken only
later. Main statement: in the end the count is what the lines of the wrapped text have past the width,
and a round notes it exactly if one of them has anything.
-/
namespace StoryBlanks

namespace Wrap

open Text (closedLines splitOn)

/-- How many characters some lines have past a width, all taken together. -/
def excess (w : Nat) : List Text → Nat
  | [] => 0
  | line :: lines => (line.length - w) + excess w lines

@[simp] theorem excess_nil (w : Nat) : excess w [] = 0 := rfl

@[simp] theorem excess_cons (w : Nat) (line : Text) (lines : List Text) :
    excess w (line :: lines) = (line.length - w) + excess w lines := rfl

@[simp] theorem excess_append (w : Nat) (lines rest : List Text) :
    excess w (lines ++ rest) = excess w lines + excess w rest := by
  induction lines with
  | nil => simp
  | cons line lines ih => simp [ih, Nat.add_assoc]

theorem excess_eq_zero {w : Nat} {lines : List Text} :
    excess w lines = 0 ↔ ∀ line ∈ lines, line.length ≤ w := by
  induction lines with
  | nil => simp
  | cons line lines ih => simp [ih, Nat.sub_eq_zero_iff_le]

/-- By induction on the moves. A line that is turned at a blank is full but not past the width, so nothing
was counted for it yet. -/
theorem Lays.overflow_eq {w k : Nat} {t l : Text} {lines : List Text} (h : Lays w t lines l k) :
    k = excess w (lines ++ [l]) := by
  induction h with
  | start => simp
  | @close t l lines k c _ _ ih =>
    rw [ih]
    simp
  | @extend t l lines k c _ _ room ih =>
    rw [ih]
    simp only [excess_append, excess_cons, List.length_append, List.length_singleton]
    omega
  | @overrun t l lines k c _ _ full ih =>
    rw [ih]
    simp only [excess_append, excess_cons, List.length_append, List.length_singleton]
    omega
  | @turn t x y lines k b c _ _ _ full ih =>
    rw [ih]
    simp only [List.length_append, List.length_cons] at full
    simp only [excess_append, excess_cons, excess_nil, List.length_append, List.length_cons,
      List.length_nil]
    omega

/-- The overrun that is counted on the way is the excess of the lines in the end. -/
theorem layout_overflow (w : Nat) (t : Text) :
    (layout w t).overflow = excess w (splitOn '\n' (wrap w t)) := by
  obtain ⟨lines, h, hclosed⟩ := exists_lays w t
  have htext : wrap w t = closedLines lines ++ (layout w t).line.reverse := by
    simp [wrap, Layout.text, ← hclosed]
  rw [htext, h.splitOn_text, ← h.overflow_eq]

end Wrap

namespace Round

open Text (splitOn)

theorem wrap_notes {n : Nat} (hn : 0 < n) (text : Text) :
    (wrap text (.int n)).notes = if (Wrap.layout n text).overflow = 0 then []
      else [.debug ("word_wrap: " ++ Text.ofNat (Wrap.layout n text).overflow ++
        " character(s) past width " ++ Text.ofNat n)] := by
  have hwidth : wrap text (.int n) = (do
      if (Wrap.layout n text).overflow ≠ 0 then
        Noted.note (.debug ("word_wrap: " ++ Text.ofNat (Wrap.layout n text).overflow ++
          " character(s) past width " ++ Text.ofNat n))
      return (Wrap.layout n text).text) := by
    rw [wrap, Width.ofValue_natCast hn]
    rfl
  rw [hwidth]
  by_cases h : (Wrap.layout n text).overflow = 0
  · rw [if_pos h, if_neg (not_not_intro h)]
    rfl
  · rw [if_neg h, if_pos h]
    rfl

/-- What is counted while a text is wrapped is how far its lines are past the width, all taken together.
The count is all that is noted, and nothing is noted if and only if every line is within the width. -/
theorem overflow_is_excess (w : Width) (t : Text) :
    (Wrap.layout w.toNat t).overflow = Wrap.excess w.toNat (splitOn '\n' (Wrap.wrap w.toNat t)) ∧
      (∀ note ∈ (wrap t (.int w.toNat)).notes, note = .debug ("word_wrap: " ++
        Text.ofNat (Wrap.excess w.toNat (splitOn '\n' (Wrap.wrap w.toNat t))) ++
          " character(s) past width " ++ Text.ofNat w.toNat)) ∧
      ((wrap t (.int w.toNat)).notes = [] ↔
        ∀ line ∈ splitOn '\n' (Wrap.wrap w.toNat t), line.length ≤ w.toNat) := by
  have hcount := Wrap.layout_overflow w.toNat t
  have hnotes := wrap_notes w.positive t
  rw [hcount] at hnotes
  refine ⟨hcount, ?_, ?_⟩
  · intro note hnote
    rw [hnotes] at hnote
    split at hnote
    · cases hnote
    · exact List.mem_singleton.mp hnote
  · rw [hnotes, ← Wrap.excess_eq_zero]
    split
    · next h => simp [h]
    · next h => simp [h]

end Round
end StoryBlanks
