import StoryBlanks.Width
import StoryBlanks.Proofs.Wrap.Laying
import Mathlib.Data.List.Forall2

/-!
# The lines of wrapped text

Wrapping only turns blanks into newlines, and the lines that come of it fit. Main statement: a
line of wrapped text is within the width, or it is one word of the text that is longer than the
width and stands alone.
-/
namespace StoryBlanks.Wrap

open Text (isBlank closedLines closedLines_snoc splitOn eq_of_splitOn exists_line_around
  infix_of_mem_splitOn sep_not_mem_of_mem_splitOn)

/-! ## Breaking a text -/

def Kept (c d : Char) : Prop := d = c ∨ isBlank c ∧ d = '\n'

/-- The second text is the first with some blanks turned into newlines. -/
def Breaks (t u : Text) : Prop := List.Forall₂ Kept t u

instance (c d : Char) : Decidable (Kept c d) :=
  inferInstanceAs (Decidable (d = c ∨ isBlank c ∧ d = '\n'))

instance (t u : Text) : Decidable (Breaks t u) := inferInstanceAs (Decidable (List.Forall₂ Kept t u))

namespace Breaks

variable {t u v a b : Text} {c d : Char}

theorem single (h : Kept c d) : Breaks [c] [d] := .cons h .nil

theorem append (ha : Breaks a u) (hb : Breaks b v) : Breaks (a ++ b) (u ++ v) :=
  List.rel_append ha hb

theorem length_eq (h : Breaks t u) : u.length = t.length := (List.Forall₂.length_eq h).symm

theorem of_append_right (h : Breaks t (u ++ v)) :
    ∃ a b, t = a ++ b ∧ Breaks a u ∧ Breaks b v :=
  ⟨t.take u.length, t.drop u.length, (List.take_append_drop _ t).symm,
    List.forall₂_take_append t u v h, List.forall₂_drop_append t u v h⟩

theorem of_append_left (h : Breaks (a ++ b) u) :
    ∃ u₁ u₂, u = u₁ ++ u₂ ∧ Breaks a u₁ ∧ Breaks b u₂ := by
  refine ⟨u.take a.length, u.drop a.length, (List.take_append_drop _ u).symm, ?_, ?_⟩
  · simpa [Breaks] using List.forall₂_take a.length h
  · simpa [Breaks] using List.forall₂_drop a.length h

theorem of_cons_right (h : Breaks t (d :: u)) : ∃ c a, t = c :: a ∧ Kept c d ∧ Breaks a u := by
  cases h with
  | cons hk hrest => exact ⟨_, _, rfl, hk, hrest⟩

/-- Where no newline is, nothing was broken. -/
theorem eq_of_newline_not_mem (h : Breaks t u) (hu : '\n' ∉ u) : u = t := by
  induction h with
  | nil => rfl
  | cons hk _ ih =>
    simp only [List.mem_cons, not_or] at hu
    rcases hk with rfl | ⟨-, rfl⟩
    · rw [ih hu.2]
    · exact absurd rfl hu.1

/-- Where no blank is, nothing can be broken. -/
theorem eq_of_solid (h : Breaks t u) (ht : Solid t) : u = t := by
  induction h with
  | nil => rfl
  | @cons c d t u hk _ ih =>
    rcases hk with rfl | ⟨hb, -⟩
    · rw [ih fun e he => ht e (by simp [he])]
    · exact absurd hb (by simp [ht c (by simp)])

/-- One more blank may be broken. -/
theorem turn (h : Breaks t (u ++ d :: v)) (hd : isBlank d) : Breaks t (u ++ '\n' :: v) := by
  obtain ⟨a, b, rfl, ha, hb⟩ := h.of_append_right
  obtain ⟨c, b, rfl, hk, hrest⟩ := hb.of_cons_right
  refine ha.append (.cons ?_ hrest)
  rcases hk with rfl | ⟨hc, -⟩
  · exact .inr ⟨hd, rfl⟩
  · exact .inr ⟨hc, rfl⟩

theorem blank_of_newline (h : Kept c '\n') : isBlank c := by
  rcases h with rfl | ⟨hc, -⟩
  · exact isBlank_newline
  · exact hc

theorem blank_head (h : Breaks t u) (hu : ∀ d ∈ u.head?, d = '\n') : ∀ c ∈ t.head?, isBlank c := by
  cases h with
  | nil => simp
  | @cons c d t u hk _ =>
    obtain rfl : d = '\n' := hu d rfl
    intro e he
    obtain rfl : c = e := by simpa using he
    exact blank_of_newline hk

theorem blank_last (h : Breaks t u) (hu : ∀ d ∈ u.getLast?, d = '\n') :
    ∀ c ∈ t.getLast?, isBlank c := by
  have hrev : Breaks t.reverse u.reverse := List.rel_reverse h
  simpa using hrev.blank_head (by simpa using hu)

theorem getElem? (h : Breaks t u) {i : Nat} (ht : t[i]? = some c) (hu : u[i]? = some d) :
    Kept c d := by
  induction h generalizing i with
  | nil => simp at ht
  | cons hk _ ih =>
    cases i with
    | zero =>
      simp only [List.getElem?_cons_zero, Option.some.injEq] at ht hu
      exact ht ▸ hu ▸ hk
    | succ i => exact ih (by simpa using ht) (by simpa using hu)

end Breaks

/-! ## Fitting a width -/

/-- A line within the width, or one that has no blank to break it at. -/
def Fits (w : Nat) (line : Text) : Prop := line.length ≤ w ∨ Solid line

def Fitted (w : Nat) (u : Text) : Prop := ∀ line ∈ splitOn '\n' u, Fits w line

instance (w : Nat) (line : Text) : Decidable (Fits w line) :=
  inferInstanceAs (Decidable (line.length ≤ w ∨ Solid line))

instance (w : Nat) (u : Text) : Decidable (Fitted w u) :=
  inferInstanceAs (Decidable (∀ line ∈ splitOn '\n' u, Fits w line))

/-- Cutting a line shorter does not make it too long. -/
theorem Fits.of_stretch {w : Nat} {line z : Text} (h : Fits w line) (hz : z <:+: line) : Fits w z := by
  rcases h with h | h
  · exact .inl (hz.length_le.trans h)
  · exact .inr fun c hc => h c (hz.subset hc)

/-- Any stretch without a newline fits, not only whole lines. -/
theorem Fitted.fits_stretch {w : Nat} {u z : Text} (h : Fitted w u) (hz : z <:+: u)
    (hn : '\n' ∉ z) : Fits w z := by
  obtain ⟨line, hmem, hline⟩ := exists_line_around hn hz
  exact (h line hmem).of_stretch hline

/-- A text that goes on to fit has fitted so far. -/
theorem Fitted.of_append_left {w : Nat} {u v : Text} (h : Fitted w (u ++ v)) : Fitted w u := by
  intro line hmem
  have hline := (infix_of_mem_splitOn hmem).trans (List.prefix_append u v).isInfix
  exact h.fits_stretch hline (sep_not_mem_of_mem_splitOn hmem)

/-! ## Words -/

/-- The word stands in the text from a position on: it has no blank, and a blank or an end of the
text on either side. -/
def IsWordAt (t : Text) (i : Nat) (word : Text) : Prop :=
  ∃ before after, t = before ++ word ++ after ∧ before.length = i ∧ Solid word ∧
    (∀ c ∈ before.getLast?, isBlank c) ∧ ∀ c ∈ after.head?, isBlank c

theorem getLast?_closedLines (lines : List Text) : ∀ d ∈ (closedLines lines).getLast?, d = '\n' := by
  induction lines using List.reverseRecOn with
  | nil => simp
  | append_singleton lines line _ =>
    rw [closedLines_snoc, ← List.append_assoc]
    simp

/-- A line without a blank is a word of the text that was broken. -/
theorem Breaks.isWordAt {t u line : Text} {before after : List Text} (h : Breaks t u)
    (hs : splitOn '\n' u = before ++ line :: after) (hline : Solid line) :
    IsWordAt t (closedLines before).length line := by
  obtain ⟨rest, rfl, hrest⟩ := eq_of_splitOn hs
  obtain ⟨m, r, rfl, hm, hr⟩ := h.of_append_right
  obtain ⟨a, m, rfl, ha, hm⟩ := hm.of_append_right
  obtain rfl := hm.eq_of_newline_not_mem hline.newline_not_mem
  exact ⟨a, r, rfl, ha.length_eq.symm, hline, ha.blank_last (getLast?_closedLines before),
    hr.blank_head hrest⟩

/-! ## Wrapped text -/

namespace Lays

variable {w k : Nat} {t l : Text} {lines : List Text}

theorem breaks (h : Lays w t lines l k) : Breaks t (closedLines lines ++ l) := by
  induction h with
  | start => exact .nil
  | @close t l lines k c _ hends ih =>
    have hk : Kept c '\n' := by
      rcases hends with rfl | ⟨hb, -⟩
      · exact .inl rfl
      · exact .inr ⟨hb, rfl⟩
    rw [closedLines_snoc, List.append_nil, ← List.append_assoc]
    exact ih.append (.single hk)
  | extend _ _ _ ih =>
    rw [← List.append_assoc]
    exact ih.append (.single (.inl rfl))
  | overrun _ _ _ ih =>
    rw [← List.append_assoc]
    exact ih.append (.single (.inl rfl))
  | @turn t x y lines k b c _ hb _ _ ih =>
    rw [← List.append_assoc] at ih
    have hturn := (ih.turn hb).append (.single (.inl rfl : Kept c c))
    rw [closedLines_snoc]
    simpa using hturn

/-- A closed line was within the width when it was closed, or had no blank. -/
theorem fits (h : Lays w t lines l k) : (∀ line ∈ lines, Fits w line) ∧ Fits w l := by
  induction h with
  | start => exact ⟨by simp, .inl (by simp)⟩
  | close _ _ ih =>
    have hlines := List.forall_mem_append.mpr ⟨ih.1, List.forall_mem_singleton.mpr ih.2⟩
    exact ⟨hlines, .inl (by simp)⟩
  | extend _ _ hroom ih => exact ⟨ih.1, .inl (by simp; omega)⟩
  | overrun _ hsolid _ ih => exact ⟨ih.1, .inr hsolid⟩
  | @turn t x y lines k b c _ _ hsolid hfull ih =>
    have hx : Fits w x := by
      simp only [List.length_append, List.length_cons] at hfull
      exact .inl (by omega)
    exact ⟨List.forall_mem_append.mpr ⟨ih.1, List.forall_mem_singleton.mpr hx⟩, .inr hsolid⟩

end Lays

theorem wrap_breaks (w : Nat) (t : Text) : Breaks t (wrap w t) := by
  obtain ⟨lines, l, k, h, he⟩ := exists_lays_wrap w t
  rw [he]
  exact h.breaks

theorem wrap_fitted (w : Nat) (t : Text) : Fitted w (wrap w t) := by
  obtain ⟨lines, l, k, h, he⟩ := exists_lays_wrap w t
  intro line hline
  rw [he, h.splitOn_text] at hline
  exact List.forall_mem_append.mpr ⟨h.fits.1, List.forall_mem_singleton.mpr h.fits.2⟩ line hline

/-- Wrapping keeps every character where it is, except that some blanks become newlines; every
line is within the width or has no blank; and one past the width is a whole word of the text, at
the place where it stood. -/
theorem wrap_lines (w : Width) (t : Text) :
    (wrap w.toNat t).length = t.length ∧
      (∀ (i : Nat) (c d : Char), t[i]? = some c → (wrap w.toNat t)[i]? = some d →
        d = c ∨ isBlank c ∧ d = '\n') ∧
      (∀ i : Nat, t[i]? = some '\n' → (wrap w.toNat t)[i]? = some '\n') ∧
      (∀ line ∈ splitOn '\n' (wrap w.toNat t),
        line.length ≤ w.toNat ∨ ∀ c ∈ line, isBlank c = false) ∧
      ∀ (before : List Text) (line : Text) (after : List Text),
        splitOn '\n' (wrap w.toNat t) = before ++ line :: after → w.toNat < line.length →
        IsWordAt t (closedLines before).length line := by
  have hb := wrap_breaks w.toNat t
  have hf := wrap_fitted w.toNat t
  refine ⟨hb.length_eq, fun i c d ht hu => hb.getElem? ht hu, ?_, hf, ?_⟩
  · intro i ht
    obtain ⟨hi, -⟩ := List.getElem?_eq_some_iff.mp ht
    cases hu : (wrap w.toNat t)[i]? with
    | none =>
      rw [List.getElem?_eq_none_iff, hb.length_eq] at hu
      omega
    | some d =>
      rcases hb.getElem? ht hu with rfl | ⟨-, rfl⟩
      · rfl
      · rfl
  · intro before line after hs hlong
    have hsolid : Solid line := by
      rcases hf line (by simp [hs]) with h | h
      · omega
      · exact h
    exact hb.isWordAt hs hsolid

/-- A word past the width between two that fit. -/
theorem wrap_lines_long_word :
    splitOn '\n' (wrap 3 ['a', 'b', ' ', 'c', 'd', 'e', 'f', ' ', 'g']) =
        [['a', 'b'], ['c', 'd', 'e', 'f'], ['g']] ∧
      IsWordAt ['a', 'b', ' ', 'c', 'd', 'e', 'f', ' ', 'g'] 3 ['c', 'd', 'e', 'f'] := by
  have hs : splitOn '\n' (wrap 3 ['a', 'b', ' ', 'c', 'd', 'e', 'f', ' ', 'g']) =
      [['a', 'b']] ++ ['c', 'd', 'e', 'f'] :: [['g']] := by decide
  exact ⟨hs, (wrap_lines ⟨3, by decide⟩ _).2.2.2.2 _ _ _ hs (by decide)⟩

end StoryBlanks.Wrap
