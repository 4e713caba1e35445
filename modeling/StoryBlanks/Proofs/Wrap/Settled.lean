import StoryBlanks.Proofs.Wrap.Greedy

/-!
# Text that wrapping leaves alone

A text whose lines fit is a way to break itself, and wrapping never needs more newlines than any
other way. Main statement: the texts that wrapping leaves alone are those whose lines fit; so wrapped
text is left alone, by the same width and by every wider one.
-/
namespace StoryBlanks.Wrap

open Text (isBlank splitOn)

variable {w v : Nat} {t u line : Text}

namespace Breaks

theorem refl (t : Text) : Breaks t t := by
  induction t with
  | nil => exact .nil
  | cons c t ih => exact .cons (.inl rfl) ih

/-- No newline is lost. -/
theorem count_le (h : Breaks t u) : t.count '\n' ≤ u.count '\n' := by
  induction h with
  | nil => exact Nat.le_refl 0
  | @cons c d t u hk _ ih =>
    rcases hk with rfl | ⟨-, rfl⟩
    · rw [List.count_cons, List.count_cons]
      omega
    · have hle : (c :: t).count '\n' ≤ t.count '\n' + 1 := by
        rw [List.count_cons]
        split <;> omega
      rw [List.count_cons_self]
      omega

/-- Where none is gained either, nothing was broken. -/
theorem eq_of_count_le (h : Breaks t u) (hle : u.count '\n' ≤ t.count '\n') : u = t := by
  induction h with
  | nil => rfl
  | @cons c d t u hk hrest ih =>
    have hkept := count_le hrest
    by_cases hd : d = c
    · rw [hd, List.count_cons, List.count_cons] at hle
      have heq := ih (by omega)
      rw [hd, heq]
    · obtain ⟨-, rfl⟩ : isBlank c ∧ d = '\n' := hk.resolve_left hd
      rw [List.count_cons_self, List.count_cons_of_ne (Ne.symm hd)] at hle
      omega

end Breaks

theorem Fits.mono (h : Fits w line) (hle : w ≤ v) : Fits v line := by
  rcases h with hlen | hsolid
  · exact .inl (hlen.trans hle)
  · exact .inr hsolid

/-- What fits a width fits a greater one. -/
theorem Fitted.mono (h : Fitted w u) (hle : w ≤ v) : Fitted v u := by
  intro line hline
  exact (h line hline).mono hle

/-- A text whose lines fit has no fewer newlines than its wrapped form, which has all of them. -/
theorem wrap_of_fitted (h : Fitted w t) : wrap w t = t := by
  have hahead : Ahead t (wrap w t) := wrap_ahead (Breaks.refl t) h
  exact (wrap_breaks w t).eq_of_count_le hahead.count_le

/-- What fits already stays as it is, and nothing else does. -/
theorem wrap_eq_self_iff : wrap w t = t ↔ Fitted w t := by
  constructor
  · intro h
    rw [← h]
    exact wrap_fitted w t
  · exact wrap_of_fitted

/-- Wrapping leaves a text alone if and only if each of its lines is within the width or has no blank;
and what has been wrapped stays as it is when it is wrapped again, as narrow or wider. -/
theorem wrap_settles (w : Width) (t : Text) :
    (wrap w.toNat t = t ↔
      ∀ line ∈ splitOn '\n' t, line.length ≤ w.toNat ∨ ∀ c ∈ line, isBlank c = false) ∧
      ∀ v : Width, w.toNat ≤ v.toNat → wrap v.toNat (wrap w.toNat t) = wrap w.toNat t := by
  refine ⟨wrap_eq_self_iff, ?_⟩
  intro v hle
  have hfitted : Fitted v.toNat (wrap w.toNat t) := (wrap_fitted w.toNat t).mono hle
  exact wrap_of_fitted hfitted

/-- A word past the width, and a line of exactly the width that is wrapped again one wider. -/
theorem wrap_settles_wider :
    2 ≤ 3 ∧ wrap 2 ['a', 'b', ' ', 'c', 'd', 'e', ' ', 'f'] =
        ['a', 'b', '\n', 'c', 'd', 'e', '\n', 'f'] ∧
      wrap 3 ['a', 'b', '\n', 'c', 'd', 'e', '\n', 'f'] = ['a', 'b', '\n', 'c', 'd', 'e', '\n', 'f'] := by
  have hwrap : wrap 2 ['a', 'b', ' ', 'c', 'd', 'e', ' ', 'f'] =
      ['a', 'b', '\n', 'c', 'd', 'e', '\n', 'f'] := by decide
  have hagain := (wrap_settles ⟨2, by decide⟩ ['a', 'b', ' ', 'c', 'd', 'e', ' ', 'f']).2
    ⟨3, by decide⟩ (by decide)
  rw [hwrap] at hagain
  exact ⟨by decide, hwrap, hagain⟩

end StoryBlanks.Wrap
