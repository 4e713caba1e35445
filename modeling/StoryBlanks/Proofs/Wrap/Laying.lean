import StoryBlanks.Wrap
import StoryBlanks.Proofs.Text.Lines

/-!
# How a text is laid out

What a layout does, told by its lines alone: a character closes the open line, lengthens it, runs
over its end, or turns its last blank into a newline. Main statement: the layout of every text
comes about by these moves. What is to be shown of wrapped text then needs one case for each.
-/
namespace StoryBlanks.Wrap

open Text (isBlank closedLines closedLines_snoc splitOn)

def Solid (t : Text) : Prop := ∀ c ∈ t, isBlank c = false

instance (t : Text) : Decidable (Solid t) :=
  inferInstanceAs (Decidable (∀ c ∈ t, isBlank c = false))

/-- `Lays w t lines l k`: when `t` has been read, `lines` are closed, `l` is the open line, and `k`
characters have overrun the width. -/
inductive Lays (w : Nat) : Text → List Text → Text → Nat → Prop where
  | start : Lays w [] [] [] 0
  | close {t l : Text} {lines : List Text} {k : Nat} {c : Char} (before : Lays w t lines l k)
      (ends : c = '\n' ∨ isBlank c ∧ w ≤ l.length) :
      Lays w (t ++ [c]) (lines ++ [l]) [] k
  | extend {t l : Text} {lines : List Text} {k : Nat} {c : Char} (before : Lays w t lines l k)
      (inline : c ≠ '\n') (room : l.length < w) :
      Lays w (t ++ [c]) lines (l ++ [c]) k
  | overrun {t l : Text} {lines : List Text} {k : Nat} {c : Char} (before : Lays w t lines l k)
      (solid : Solid (l ++ [c])) (full : w ≤ l.length) :
      Lays w (t ++ [c]) lines (l ++ [c]) (k + 1)
  | turn {t x y : Text} {lines : List Text} {k : Nat} {b c : Char}
      (before : Lays w t lines (x ++ b :: y) k) (blank : isBlank b) (solid : Solid (y ++ [c]))
      (full : (x ++ b :: y).length = w) :
      Lays w (t ++ [c]) (lines ++ [x]) (y ++ [c]) k

theorem isBlank_newline : isBlank '\n' = true := rfl

theorem Solid.newline_not_mem {t : Text} (h : Solid t) : '\n' ∉ t := by
  intro hn
  exact absurd (h '\n' hn) (by simp [isBlank_newline])

theorem Solid.cons {c : Char} {t : Text} (hc : isBlank c = false) (h : Solid t) : Solid (c :: t) := by
  intro d hd
  rcases List.mem_cons.mp hd with rfl | hd
  · exact hc
  · exact h d hd

theorem Solid.reverse {t : Text} (h : Solid t) : Solid t.reverse :=
  fun c hc => h c (List.mem_reverse.mp hc)

namespace Layout

/-- What the bookkeeping says of the open line. A blank to break at is only remembered while the
line is within the width. -/
structure Sound (w : Nat) (s : Layout) : Prop where
  column : s.column = s.line.length
  solid : s.sinceBlank = none → Solid s.line
  blank : ∀ n, s.sinceBlank = some n → s.line.length ≤ w ∧
    ∃ y b x, s.line = y ++ b :: x ∧ y.length = n ∧ Solid y ∧ isBlank b

theorem sound_start (w : Nat) : Sound w {} :=
  ⟨rfl, fun _ => by simp [Solid], fun n h => by simp at h⟩

/-- All that one more character can do. The blank that the line is broken at either is that
character, and then the line just ends, or stands in a line of exactly the width. -/
theorem step_cases {w : Nat} {s : Layout} (hs : s.Sound w) (c : Char) :
    ((c = '\n' ∨ isBlank c ∧ w ≤ s.line.length) ∧ s.step w c = s.newline) ∨
    (c ≠ '\n' ∧ s.line.length < w ∧ s.step w c = s.push c) ∨
    (Solid (c :: s.line) ∧ w ≤ s.line.length ∧
      s.step w c = { closed := s.closed, line := c :: s.line, column := s.column + 1,
                     overflow := s.overflow + 1 }) ∨
    ∃ y b x, s.line = y ++ b :: x ∧ s.line.length = w ∧ isBlank b ∧ Solid (c :: y) ∧
      s.step w c = { closed := '\n' :: (x ++ s.closed), line := c :: y, column := y.length + 1,
                     overflow := s.overflow } := by
  by_cases hn : c = '\n'
  · exact .inl ⟨.inl hn, by simp [step, hn]⟩
  by_cases hroom : s.line.length < w
  · exact .inr (.inl ⟨hn, hroom, by simp [step, hn, hs.column, hroom]⟩)
  have hfull : w ≤ s.line.length := by omega
  have hcol : ¬ s.column < w := by rw [hs.column]; exact hroom
  cases hb : isBlank c with
  | true =>
    refine .inl ⟨.inr ⟨rfl, hfull⟩, ?_⟩
    simp [step, hn, hcol, push, hb, breakAt, newline]
  | false =>
    cases hsince : s.sinceBlank with
    | none =>
      refine .inr (.inr (.inl ⟨.cons hb (hs.solid hsince), hfull, ?_⟩))
      simp [step, hn, hcol, push, hb, hsince]
    | some n =>
      obtain ⟨hle, y, b, x, hline, rfl, hy, hblank⟩ := hs.blank n hsince
      refine .inr (.inr (.inr ⟨y, b, x, hline, by omega, hblank, .cons hb hy, ?_⟩))
      have hdrop : (y ++ b :: x).drop (y.length + 1) = x := by
        rw [List.drop_append]
        simp
      simp [step, hn, hcol, push, hb, hsince, breakAt, hline, hdrop]

theorem push_sound {w : Nat} {s : Layout} (hs : s.Sound w) (c : Char) (hroom : s.line.length < w) :
    (s.push c).Sound w := by
  have hlen : (s.push c).line.length ≤ w := by simp only [push, List.length_cons]; omega
  cases hb : isBlank c with
  | true =>
    refine ⟨by simp [push, hs.column], fun hn => by simp [push, hb] at hn, ?_⟩
    intro n hn
    exact ⟨hlen, [], c, s.line, rfl, by simpa [push, hb] using hn, by simp [Solid], hb⟩
  | false =>
    refine ⟨by simp [push, hs.column], ?_, ?_⟩
    · intro hn
      exact .cons hb (hs.solid (by simpa [push, hb] using hn))
    · intro n hn
      simp only [push, hb, Bool.false_eq_true, if_false, Option.map_eq_some_iff] at hn
      obtain ⟨m, hm, rfl⟩ := hn
      obtain ⟨-, y, b, x, hline, rfl, hy, hblank⟩ := hs.blank m hm
      exact ⟨hlen, c :: y, b, x, by simp [push, hline], rfl, .cons hb hy, hblank⟩

/-- Every character keeps the bookkeeping right. -/
theorem step_sound {w : Nat} {s : Layout} (hs : s.Sound w) (c : Char) : (s.step w c).Sound w := by
  rcases step_cases hs c with ⟨-, h⟩ | ⟨-, hroom, h⟩ | ⟨hsolid, -, h⟩ | ⟨y, b, x, -, -, -, hsolid, h⟩
  · rw [h]
    exact ⟨rfl, fun _ => by simp [newline, Solid], fun n hn => by simp [newline] at hn⟩
  · rw [h]
    exact push_sound hs c hroom
  · rw [h]
    exact ⟨by simp [hs.column], fun _ => hsolid, fun n hn => by simp at hn⟩
  · rw [h]
    exact ⟨by simp, fun _ => hsolid, fun n hn => by simp at hn⟩

/-- A character is put on the open line, or closes it at a newline or at a blank. -/
theorem step_lays {w : Nat} {t : Text} {s : Layout} {lines : List Text} (hs : s.Sound w)
    (h : Lays w t lines s.line.reverse s.overflow) (hclosed : s.closed.reverse = closedLines lines)
    (c : Char) :
    ∃ lines', Lays w (t ++ [c]) lines' (s.step w c).line.reverse (s.step w c).overflow ∧
      (s.step w c).closed.reverse = closedLines lines' := by
  rcases step_cases hs c with
    ⟨hends, he⟩ | ⟨hn, hroom, he⟩ | ⟨hsolid, hfull, he⟩ | ⟨y, b, x, hline, hfull, hb, hsolid, he⟩
  · rw [he]
    refine ⟨lines ++ [s.line.reverse], .close h (by simpa using hends), ?_⟩
    rw [closedLines_snoc, ← hclosed]
    simp [newline]
  · rw [he]
    refine ⟨lines, ?_, hclosed⟩
    simpa [push] using h.extend hn (by simpa using hroom)
  · rw [he]
    refine ⟨lines, ?_, hclosed⟩
    simpa using h.overrun (c := c) (by simpa using hsolid.reverse) (by simpa using hfull)
  · rw [he]
    rw [hline] at h hfull
    refine ⟨lines ++ [x.reverse], ?_, ?_⟩
    · have hbefore : Lays w t lines (x.reverse ++ b :: y.reverse) s.overflow := by simpa using h
      have hlen : (x.reverse ++ b :: y.reverse).length = w := by
        simp only [List.length_append, List.length_cons, List.length_reverse] at hfull ⊢
        omega
      simpa using hbefore.turn hb (by simpa using hsolid.reverse) hlen
    · rw [closedLines_snoc, ← hclosed]
      simp

end Layout

theorem layout_snoc (w : Nat) (t : Text) (c : Char) :
    layout w (t ++ [c]) = (layout w t).step w c := by
  simp [layout]

theorem layout_sound (w : Nat) (t : Text) : (layout w t).Sound w := by
  induction t using List.reverseRecOn with
  | nil => exact Layout.sound_start w
  | append_singleton t c ih =>
    rw [layout_snoc]
    exact Layout.step_sound ih c

/-- The layout of a text comes about by the moves: by induction on the text from its end. -/
theorem exists_lays (w : Nat) (t : Text) :
    ∃ lines, Lays w t lines (layout w t).line.reverse (layout w t).overflow ∧
      (layout w t).closed.reverse = closedLines lines := by
  induction t using List.reverseRecOn with
  | nil => exact ⟨[], .start, rfl⟩
  | append_singleton t c ih =>
    obtain ⟨lines, h, hclosed⟩ := ih
    rw [layout_snoc]
    exact Layout.step_lays (layout_sound w t) h hclosed c

/-- The wrapped text is the closed lines with the open line behind them. -/
theorem exists_lays_wrap (w : Nat) (t : Text) :
    ∃ lines l k, Lays w t lines l k ∧ wrap w t = closedLines lines ++ l := by
  obtain ⟨lines, h, hclosed⟩ := exists_lays w t
  refine ⟨lines, _, _, h, ?_⟩
  simp [wrap, Layout.text, ← hclosed]

namespace Lays

variable {w k : Nat} {t l : Text} {lines : List Text}

theorem newline_not_mem_open (h : Lays w t lines l k) : '\n' ∉ l := by
  induction h with
  | start => simp
  | close => simp
  | extend _ hn _ ih => simpa [ih] using Ne.symm hn
  | overrun _ hsolid => exact hsolid.newline_not_mem
  | turn _ _ hsolid => exact hsolid.newline_not_mem

theorem newline_not_mem (h : Lays w t lines l k) : ∀ line ∈ lines, '\n' ∉ line := by
  induction h with
  | start => simp
  | close before _ ih =>
    have hl := before.newline_not_mem_open
    exact List.forall_mem_append.mpr ⟨ih, List.forall_mem_singleton.mpr hl⟩
  | extend _ _ _ ih => exact ih
  | overrun _ _ _ ih => exact ih
  | turn before _ _ _ ih =>
    have hl := before.newline_not_mem_open
    rw [List.mem_append, not_or] at hl
    exact List.forall_mem_append.mpr ⟨ih, List.forall_mem_singleton.mpr hl.1⟩

/-- The lines of the text that is laid out. -/
theorem splitOn_text (h : Lays w t lines l k) :
    splitOn '\n' (closedLines lines ++ l) = lines ++ [l] := by
  rw [Text.splitOn_closedLines h.newline_not_mem, Text.splitOn_line h.newline_not_mem_open]

end Lays
end StoryBlanks.Wrap
