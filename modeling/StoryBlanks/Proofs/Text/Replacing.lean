import StoryBlanks.Text.Basic
import Mathlib.Data.List.Infix

/-!
# Replacing

A text is gone through once from the left. Main statements: where the pattern stands it is replaced
whole and the rest is gone through, and a character that the pattern does not start at is kept.
-/
namespace StoryBlanks.Text

variable {pattern new cs rest : Text} {c : Char}

theorem after?_eq_some : after? pattern cs = some rest ↔ cs = pattern ++ rest := by
  induction pattern generalizing cs with
  | nil => simp [after?]
  | cons p pattern ih =>
    cases cs with
    | nil => simp [after?]
    | cons c cs =>
      by_cases h : p = c
      · simp [after?, h, ih]
      · simp [after?, h, Ne.symm h]

theorem after?_eq_none : after? pattern cs = none ↔ ¬ pattern <+: cs := by
  rw [Option.eq_none_iff_forall_ne_some]
  constructor
  · rintro h ⟨rest, hrest⟩
    exact h rest (after?_eq_some.mpr hrest.symm)
  · intro h rest hrest
    exact h ⟨rest, (after?_eq_some.mp hrest).symm⟩

/-- Where the pattern stands it is replaced, and what is put in is not looked at. -/
theorem replace_go_append (hp : pattern ≠ []) (n : Nat) (rest : Text) :
    replace.go pattern new (n + 1) (pattern ++ rest) = new ++ replace.go pattern new n rest := by
  obtain ⟨p, ps, rfl⟩ := List.exists_cons_of_ne_nil hp
  have hafter : after? (p :: ps) (p :: (ps ++ rest)) = some rest := after?_eq_some.mpr rfl
  simp only [List.cons_append, replace.go, hafter]

theorem replace_go_cons (h : ¬ pattern <+: c :: cs) (n : Nat) :
    replace.go pattern new (n + 1) (c :: cs) = c :: replace.go pattern new n cs := by
  simp only [replace.go, after?_eq_none.mpr h]

/-- Turns beyond the length of the text are not needed. -/
theorem replace_go_eq (hp : pattern ≠ []) {n : Nat} (hn : cs.length ≤ n) :
    replace.go pattern new n cs = replace pattern new cs := by
  suffices hsame : ∀ m, cs.length ≤ m →
      replace.go pattern new n cs = replace.go pattern new m cs from hsame _ (Nat.le_refl _)
  induction n generalizing cs with
  | zero =>
    intro m _
    obtain rfl : cs = [] := List.eq_nil_of_length_eq_zero (Nat.le_zero.mp hn)
    cases m <;> rfl
  | succ n ih =>
    intro m hm
    cases cs with
    | nil => cases m <;> rfl
    | cons c cs =>
      obtain ⟨m, rfl⟩ : ∃ k, m = k + 1 := ⟨m - 1, by simp at hm; omega⟩
      by_cases h : pattern <+: c :: cs
      · obtain ⟨rest, hrest⟩ := h
        have hpos : 0 < pattern.length := List.length_pos_iff.mpr hp
        have hlen := congrArg List.length hrest
        simp only [List.length_append, List.length_cons] at hlen hn hm
        rw [← hrest, replace_go_append hp, replace_go_append hp, ih (by omega) m (by omega)]
      · simp only [List.length_cons] at hn hm
        rw [replace_go_cons h, replace_go_cons h, ih (by omega) m (by omega)]

/-- The pattern is replaced where it stands, and what is put in is not looked at. -/
theorem replace_append (hp : pattern ≠ []) (new rest : Text) :
    replace pattern new (pattern ++ rest) = new ++ replace pattern new rest := by
  have hpos : 0 < pattern.length := List.length_pos_iff.mpr hp
  rw [← replace_go_eq hp (Nat.le_succ _), replace_go_append hp, replace_go_eq hp (by simp)]

/-- A character that the pattern does not start at is kept. -/
theorem replace_cons (hp : pattern ≠ []) (h : ¬ pattern <+: c :: cs) (new : Text) :
    replace pattern new (c :: cs) = c :: replace pattern new cs := by
  rw [← replace_go_eq hp (Nat.le_succ _), replace_go_cons h, replace_go_eq hp (by simp)]

/-- What does not have the first character of the pattern is kept. -/
theorem replace_append_of_not_mem {p : Char} (ps new : Text) {s : Text} (h : p ∉ s) (cs : Text) :
    replace (p :: ps) new (s ++ cs) = s ++ replace (p :: ps) new cs := by
  induction s with
  | nil => rfl
  | cons c s ih =>
    rw [List.mem_cons, not_or] at h
    have hc : ¬ p :: ps <+: c :: (s ++ cs) := fun hpre => h.1 (List.cons_prefix_cons.mp hpre).1
    rw [List.cons_append, replace_cons (List.cons_ne_nil _ _) hc, ih h.2, List.cons_append]

/-- Neither does the pattern stand anywhere in there. -/
theorem infix_of_infix_append {p : Char} {ps s cs : Text} (h : p ∉ s)
    (hin : p :: ps <:+: s ++ cs) : p :: ps <:+: cs := by
  induction s with
  | nil => exact hin
  | cons c s ih =>
    rw [List.mem_cons, not_or] at h
    rcases List.infix_cons_iff.mp hin with hpre | hin
    · exact absurd (List.cons_prefix_cons.mp hpre).1 h.1
    · exact ih h.2 hin

end StoryBlanks.Text
