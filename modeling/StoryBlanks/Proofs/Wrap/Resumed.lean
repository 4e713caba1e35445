import StoryBlanks.Proofs.Wrap.Lines

/-!
# Going on from the last line

All that the pass remembers can be told from its open line: the lines above are closed, and have no
say in what becomes of the rest. Main statement: to wrap a longer text, it is enough to wrap what its
beginning has put into the last line, together with what is new.
-/
namespace StoryBlanks.Wrap

open Text (isBlank closedLines splitOn)

namespace Layout

/-- The layout with more text closed above it, where so many characters overran the width. -/
def below (s : Layout) (above : Text) (overrun : Nat) : Layout :=
  { s with closed := s.closed ++ above, overflow := s.overflow + overrun }

theorem text_below (s : Layout) (above : Text) (overrun : Nat) :
    (s.below above overrun).text = above.reverse ++ s.text := by
  simp [text, below]

/-- What stands above has no say in what becomes of one more character. -/
theorem step_below (w : Nat) (s : Layout) (above : Text) (overrun : Nat) (c : Char) :
    (s.below above overrun).step w c = (s.step w c).below above overrun := by
  have hpush : (s.below above overrun).push c = (s.push c).below above overrun := rfl
  unfold step
  by_cases hn : c = '\n'
  · simp [hn, newline, below]
  · rw [if_neg hn, if_neg hn, hpush]
    by_cases hroom : s.column < w
    · simp [below, hroom]
    · cases hsince : (s.push c).sinceBlank with
      | none =>
        simp [below, hroom, hsince]
        omega
      | some n => simp [below, hroom, hsince, breakAt]

/-- By induction on the text: no step looks at what is closed. -/
theorem foldl_step_below (w : Nat) (s : Layout) (above : Text) (overrun : Nat) (t : Text) :
    t.foldl (step w) (s.below above overrun) = (t.foldl (step w) s).below above overrun := by
  induction t generalizing s with
  | nil => rfl
  | cons c t ih => rw [List.foldl_cons, List.foldl_cons, step_below, ih]

end Layout

/-! ## The open line -/

/-- A word is laid out in one line, however long it gets. -/
theorem layout_of_solid {w : Nat} {z : Text} (h : Solid z) :
    layout w z = { line := z.reverse, column := z.length, overflow := z.length - w } := by
  induction z using List.reverseRecOn with
  | nil => simp [layout]
  | append_singleton z c ih =>
    have hz : Solid z := fun d hd => h d (by simp [hd])
    have hc : isBlank c = false := h c (by simp)
    have hn : c ≠ '\n' := by
      intro hn
      simp [hn, isBlank_newline] at hc
    rw [layout_snoc, ih hz]
    by_cases hroom : z.length < w
    · simp [Layout.step, Layout.push, hn, hc, hroom]
      omega
    · simp [Layout.step, Layout.push, hn, hc, hroom]
      omega

/-- The open line read again on its own is laid out as it was: by induction on the text from its
end, with one case for each move. -/
theorem exists_below (w : Nat) (t : Text) :
    ∃ overrun, layout w t =
      (layout w (layout w t).line.reverse).below (layout w t).closed overrun := by
  induction t using List.reverseRecOn with
  | nil => exact ⟨0, rfl⟩
  | append_singleton t c ih =>
    obtain ⟨overrun, ih⟩ := ih
    have hs := layout_sound w t
    rw [layout_snoc]
    generalize layout w t = s at ih hs
    -- where the open line only gets longer, what was read before is read again first
    have hlonger (hline : (s.step w c).line = c :: s.line)
        (hclosed : (s.step w c).closed = s.closed) :
        s.step w c = (layout w (s.step w c).line.reverse).below (s.step w c).closed overrun := by
      rw [hline, hclosed, List.reverse_cons, layout_snoc, ← Layout.step_below, ← ih]
    rcases Layout.step_cases hs c with
      ⟨-, h⟩ | ⟨-, -, h⟩ | ⟨-, -, h⟩ | ⟨y, b, x, hline, hfull, -, hsolid, h⟩
    · refine ⟨s.overflow, ?_⟩
      rw [h]
      simp [Layout.newline, Layout.below, layout]
    · exact ⟨overrun, hlonger (by rw [h]; rfl) (by rw [h]; rfl)⟩
    · exact ⟨overrun, hlonger (by rw [h]) (by rw [h])⟩
    · refine ⟨s.overflow, ?_⟩
      have hz : Solid (c :: y).reverse := hsolid.reverse
      rw [hline, List.length_append, List.length_cons] at hfull
      rw [h]
      simp only [layout_of_solid hz]
      simp [Layout.below]
      omega

/-- A layout goes on from its open line. -/
theorem layout_append (w : Nat) (a b : Text) :
    ∃ overrun, layout w (a ++ b) =
      (layout w ((layout w a).line.reverse ++ b)).below (layout w a).closed overrun := by
  obtain ⟨overrun, ha⟩ := exists_below w a
  refine ⟨overrun, ?_⟩
  calc layout w (a ++ b)
      = b.foldl (Layout.step w) (layout w a) := List.foldl_append
    _ = b.foldl (Layout.step w)
          ((layout w (layout w a).line.reverse).below (layout w a).closed overrun) := by rw [← ha]
    _ = (b.foldl (Layout.step w) (layout w (layout w a).line.reverse)).below
          (layout w a).closed overrun := Layout.foldl_step_below ..
    _ = (layout w ((layout w a).line.reverse ++ b)).below (layout w a).closed overrun := by
      rw [layout, layout, ← List.foldl_append]
      rfl

/-- Wrapping goes on from the open line, and closed lines are never looked at again. -/
theorem wrap_append (w : Nat) (a b : Text) :
    wrap w (a ++ b) = (layout w a).closed.reverse ++ wrap w ((layout w a).line.reverse ++ b) := by
  obtain ⟨overrun, hab⟩ := layout_append w a b
  rw [wrap, hab, Layout.text_below, wrap]

/-! ## The last line -/

/-- Where the last line of a text starts: behind its last newline, or where the text does. -/
def lastStart (u : Text) : Nat :=
  match (u.idxsOf '\n').getLast? with
  | some i => i + 1
  | none => 0

theorem lastStart_append {u v : Text} (hu : ∀ c ∈ u.getLast?, c = '\n') (hv : '\n' ∉ v) :
    lastStart (u ++ v) = u.length := by
  have hnone : v.idxsOf '\n' u.length = [] := by
    rw [List.idxsOf_eq_nil_iff]
    intro c hc
    simpa using ne_of_mem_of_not_mem hc hv
  rw [lastStart, List.idxsOf_append, Nat.zero_add, hnone, List.append_nil]
  rcases List.eq_nil_or_concat u with rfl | ⟨u, c, rfl⟩
  · rfl
  · obtain rfl : c = '\n' := hu c (by simp)
    simp

/-- What is closed ends where the last line starts, and the open line is still as it was written. -/
theorem lastStart_wrap (w : Nat) (a : Text) :
    lastStart (wrap w a) = (layout w a).closed.length ∧
      a.drop (layout w a).closed.length = (layout w a).line.reverse := by
  obtain ⟨lines, hlays, hclosed⟩ := exists_lays w a
  have hopen := hlays.newline_not_mem_open
  have hwrap : wrap w a = (layout w a).closed.reverse ++ (layout w a).line.reverse := by
    simp [wrap, Layout.text]
  have hends : ∀ c ∈ (layout w a).closed.reverse.getLast?, c = '\n' := by
    rw [hclosed]
    exact getLast?_closedLines lines
  constructor
  · rw [hwrap, lastStart_append hends hopen, List.length_reverse]
  · have hbreaks := wrap_breaks w a
    rw [hwrap] at hbreaks
    obtain ⟨above, line, rfl, habove, hline⟩ := hbreaks.of_append_right
    have hlength : above.length = (layout w (above ++ line)).closed.length := by
      rw [← habove.length_eq, List.length_reverse]
    rw [← hlength, List.drop_left, hline.eq_of_newline_not_mem hopen]

/-- A text is wrapped by wrapping its beginning and going on from the last line: what is closed stays,
and the rest comes of wrapping the characters of that line together with what follows. So all lines
but the last are there in whatever the text goes on with. -/
theorem wrap_resumes (w : Width) (a b : Text) :
    wrap w.toNat (a ++ b) =
        (wrap w.toNat a).take (lastStart (wrap w.toNat a)) ++
          wrap w.toNat (a.drop (lastStart (wrap w.toNat a)) ++ b) ∧
      (splitOn '\n' (wrap w.toNat a)).dropLast <+: splitOn '\n' (wrap w.toNat (a ++ b)) := by
  obtain ⟨hstart, hopen⟩ := lastStart_wrap w.toNat a
  have htake : (wrap w.toNat a).take (layout w.toNat a).closed.length =
      (layout w.toNat a).closed.reverse := by
    rw [wrap, Layout.text, List.reverse_append, ← List.length_reverse, List.take_left]
  rw [hstart, hopen, htake]
  refine ⟨wrap_append w.toNat a b, ?_⟩
  obtain ⟨lines, hlays, hclosed⟩ := exists_lays w.toNat a
  have hlines : splitOn '\n' (wrap w.toNat a) = lines ++ [(layout w.toNat a).line.reverse] := by
    rw [wrap, Layout.text, List.reverse_append, hclosed, hlays.splitOn_text]
  rw [hlines, List.dropLast_concat, wrap_append, hclosed,
    Text.splitOn_closedLines hlays.newline_not_mem]
  exact List.prefix_append lines _

/-- The beginning ends inside a word past the width, which the rest goes on with. -/
example : lastStart (wrap 2 ['a', ' ', 'b', 'c', 'd']) = 2 ∧
    wrap 2 ['a', ' ', 'b', 'c', 'd', 'e', ' ', 'f'] =
      ['a', '\n'] ++ wrap 2 ['b', 'c', 'd', 'e', ' ', 'f'] := by decide

end StoryBlanks.Wrap
