import StoryBlanks.Proofs.Wrap.Lines
import Mathlib.Data.List.Basic

/-!
# Wrapping line by line

Another account of wrapping, which looks at one line at a time: a line that is too long is broken
at its last blank within the width, or else at its first one, and what stands behind the break is
a line of its own that may have to be broken again. Main statement: wrapping a text in one pass
comes to the same.
-/
namespace StoryBlanks.Wrap

open Text (isBlank closedLines closedLines_snoc exists_splitOn joinWith joinWith_cons splitOn
  splitOn_append_inline)

/-! ## Breaking one line -/

def blankPlaces (line : Text) : List Nat := line.findIdxs isBlank

/-- Where a line that is too long is broken: at the last blank that is not behind the width, or at
the first blank if all are. -/
def breakPlace? (w : Nat) (line : Text) : Option Nat :=
  match ((blankPlaces line).filter (· ≤ w)).getLast? with
  | some p => some p
  | none => (blankPlaces line).head?

/-- A line broken as often as is needed. -/
def wrapLine (w : Nat) (line : Text) : Text :=
  if line.length ≤ w then line
  else match breakPlace? w line with
    | none => line
    | some p => line.take p ++ '\n' :: wrapLine w (line.drop (p + 1))
termination_by line.length
decreasing_by
  rw [List.length_drop]
  omega

def wrapLines (w : Nat) (t : Text) : Text := joinWith ['\n'] ((splitOn '\n' t).map (wrapLine w))

variable {w : Nat} {x y z l t : Text} {b : Char}

theorem blankPlaces_of_solid (h : Solid x) : blankPlaces x = [] := List.findIdxs_eq_nil_iff.mpr h

theorem blankPlaces_append_cons (hb : isBlank b) :
    blankPlaces (x ++ b :: y) =
      blankPlaces x ++ x.length :: y.findIdxs isBlank (x.length + 1) := by
  rw [blankPlaces, List.findIdxs_append, List.findIdxs_cons, if_pos hb, Nat.zero_add]
  rfl

theorem lt_length_of_mem_blankPlaces {p : Nat} (h : p ∈ blankPlaces x) : p < x.length := by
  have hlt := List.lt_add_of_mem_findIdxs p h
  omega

/-- A blank within the width that has no other one behind it up to there. -/
theorem breakPlace?_late (hb : isBlank b) (hz : Solid z) (hx : x.length ≤ w)
    (hw : w ≤ x.length + z.length) : breakPlace? w (x ++ b :: (z ++ y)) = some x.length := by
  have hbefore : (blankPlaces x).filter (· ≤ w) = blankPlaces x := by
    rw [List.filter_eq_self]
    intro p hp
    have hlt := lt_length_of_mem_blankPlaces hp
    exact decide_eq_true (by omega)
  have hbehind : ((z ++ y).findIdxs isBlank (x.length + 1)).filter (· ≤ w) = [] := by
    rw [List.findIdxs_append, List.findIdxs_eq_nil_iff.mpr hz, List.nil_append,
      List.filter_eq_nil_iff]
    intro p hp
    have hge := List.ge_of_mem_findIdxs p hp
    simp only [decide_eq_true_eq]
    omega
  have hlate : (blankPlaces (x ++ b :: (z ++ y))).filter (· ≤ w) = blankPlaces x ++ [x.length] := by
    rw [blankPlaces_append_cons hb, List.filter_append, hbefore, List.filter_cons,
      if_pos (decide_eq_true hx), hbehind]
  rw [breakPlace?, hlate, List.getLast?_concat]

/-- The first blank of a line, behind the width. -/
theorem breakPlace?_first (hb : isBlank b) (hx : Solid x) (hw : w < x.length) :
    breakPlace? w (x ++ b :: y) = some x.length := by
  have hplaces : blankPlaces (x ++ b :: y) = x.length :: y.findIdxs isBlank (x.length + 1) := by
    rw [blankPlaces_append_cons hb, blankPlaces_of_solid hx, List.nil_append]
  have hnone : (blankPlaces (x ++ b :: y)).filter (· ≤ w) = [] := by
    rw [hplaces, List.filter_eq_nil_iff]
    intro p hp
    simp only [decide_eq_true_eq]
    rcases List.mem_cons.mp hp with rfl | hp
    · omega
    · have hge := List.ge_of_mem_findIdxs p hp
      omega
  rw [breakPlace?, hnone, hplaces]
  rfl

theorem wrapLine_of_fits (h : Fits w l) : wrapLine w l = l := by
  rw [wrapLine]
  rcases h with hle | hsolid
  · rw [if_pos hle]
  · split
    · rfl
    · rw [breakPlace?, blankPlaces_of_solid hsolid]
      rfl

/-- The blank at the place of the break becomes a newline, and the rest is broken in its turn. -/
theorem wrapLine_break (hp : breakPlace? w (x ++ b :: y) = some x.length)
    (hlong : w < (x ++ b :: y).length) : wrapLine w (x ++ b :: y) = x ++ '\n' :: wrapLine w y := by
  have hdrop : (x ++ b :: y).drop (x.length + 1) = y := by
    rw [List.drop_append]
    simp
  rw [wrapLine, if_neg (Nat.not_le.mpr hlong), hp]
  simp only [List.take_left, hdrop]

/-! ## Breaking a text -/

theorem wrapLines_eq {line : Text} {rest : List Text} (h : splitOn '\n' t = line :: rest) :
    wrapLines w t = wrapLine w line ++ rest.flatMap fun l => '\n' :: wrapLine w l := by
  rw [wrapLines, h, List.map_cons, joinWith_cons, List.flatMap_map]
  rfl

theorem wrapLines_newline (hl : '\n' ∉ l) (t : Text) :
    wrapLines w (l ++ '\n' :: t) = wrapLine w l ++ '\n' :: wrapLines w t := by
  obtain ⟨line, rest, ht⟩ := exists_splitOn '\n' t
  have hs : splitOn '\n' (l ++ '\n' :: t) = l :: line :: rest := by
    rw [Text.splitOn_eq, List.splitOn_append_cons_self_of_not_mem hl, ← Text.splitOn_eq, ht]
  rw [wrapLines_eq hs, wrapLines_eq ht, List.flatMap_cons]
  rfl

/-- The first line of a text is broken at a blank, whatever the line goes on with. -/
theorem wrapLines_break (hx : '\n' ∉ x) (hb : b ≠ '\n') (hz : '\n' ∉ z)
    (h : ∀ y, wrapLine w (x ++ b :: (z ++ y)) = x ++ '\n' :: wrapLine w (z ++ y)) (t : Text) :
    wrapLines w (x ++ b :: (z ++ t)) = x ++ '\n' :: wrapLines w (z ++ t) := by
  obtain ⟨line, rest, ht⟩ := exists_splitOn '\n' t
  have hzt := splitOn_append_inline hz ht
  have hbzt : splitOn '\n' (b :: (z ++ t)) = (b :: (z ++ line)) :: rest := by
    rw [splitOn, if_neg hb, hzt]
  rw [wrapLines_eq (splitOn_append_inline hx hbzt), h line, wrapLines_eq hzt]
  simp

/-- A line is broken at a blank that stands at the width or behind it if the line fits up to there. -/
theorem wrapLine_break_behind (hb : isBlank b) (hl : Fits w l) (hw : w ≤ l.length) (y : Text) :
    wrapLine w (l ++ b :: y) = l ++ '\n' :: wrapLine w y := by
  have hlong : w < (l ++ b :: y).length := by
    rw [List.length_append, List.length_cons]
    omega
  refine wrapLine_break ?_ hlong
  by_cases hle : l.length ≤ w
  · have hnil : Solid [] := fun c hc => absurd hc List.not_mem_nil
    exact breakPlace?_late (z := []) hb hnil hle hw
  · have hsolid : Solid l := hl.resolve_left hle
    exact breakPlace?_first hb hsolid (Nat.lt_of_not_le hle)

/-! ## The one pass -/

/-- What the pass has closed is done with, and the open line may be taken for the beginning of what is
still to come: by induction on the moves, whatever follows. -/
theorem Lays.wrapLines_append {k : Nat} {lines : List Text} (h : Lays w t lines l k) (rest : Text) :
    wrapLines w (t ++ rest) = closedLines lines ++ wrapLines w (l ++ rest) := by
  induction h generalizing rest with
  | start => rfl
  | @close t l lines k c before ends ih =>
    have hclosed : wrapLines w (l ++ c :: rest) = l ++ '\n' :: wrapLines w rest := by
      have hl := before.newline_not_mem_open
      have hfits := before.fits.2
      by_cases hc : c = '\n'
      · rw [hc, wrapLines_newline hl, wrapLine_of_fits hfits]
      · obtain ⟨hb, hfull⟩ := ends.resolve_left hc
        exact wrapLines_break (z := []) hl hc List.not_mem_nil
          (wrapLine_break_behind hb hfits hfull) rest
    rw [List.append_assoc, List.singleton_append, ih, hclosed, closedLines_snoc]
    simp
  | @extend t l lines k c _ _ _ ih => rw [List.append_assoc, ih, List.append_assoc]
  | @overrun t l lines k c _ _ _ ih => rw [List.append_assoc, ih, List.append_assoc]
  | @turn t x y lines k b c before hb hsolid hfull ih =>
    have hopen := before.newline_not_mem_open
    rw [List.mem_append, List.mem_cons, not_or, not_or] at hopen
    obtain ⟨hx, hne, -⟩ := hopen
    rw [List.length_append, List.length_cons] at hfull
    -- the blank is the last one within the width, and the line goes on past the width
    have hbreak (r : Text) :
        wrapLine w (x ++ b :: ((y ++ [c]) ++ r)) = x ++ '\n' :: wrapLine w ((y ++ [c]) ++ r) := by
      refine wrapLine_break (breakPlace?_late hb hsolid (by omega) ?_) ?_
      · rw [List.length_append, List.length_singleton]
        omega
      · simp only [List.length_append, List.length_cons]
        omega
    have hturned := wrapLines_break hx (Ne.symm hne) hsolid.newline_not_mem hbreak rest
    have hopened : x ++ b :: y ++ ([c] ++ rest) = x ++ b :: ((y ++ [c]) ++ rest) := by simp
    rw [List.append_assoc, ih, hopened, hturned, closedLines_snoc]
    simp

/-- One pass over a text comes to the same as breaking each of its lines on its own, again and
again; so what stands before a newline and what stands behind it are wrapped each on its own. -/
theorem wrap_eq_wrapLines (w : Width) :
    (∀ t, wrap w.toNat t = wrapLines w.toNat t) ∧
      ∀ a b, wrap w.toNat (a ++ '\n' :: b) = wrap w.toNat a ++ '\n' :: wrap w.toNat b := by
  have hwrap (t : Text) : wrap w.toNat t = wrapLines w.toNat t := by
    obtain ⟨lines, l, k, h, he⟩ := exists_lays_wrap w.toNat t
    have hopen : splitOn '\n' l = [l] := Text.splitOn_line h.newline_not_mem_open
    have hall := h.wrapLines_append []
    rw [List.append_nil, List.append_nil] at hall
    rw [he, hall, wrapLines_eq hopen, wrapLine_of_fits h.fits.2, List.flatMap_nil, List.append_nil]
  refine ⟨hwrap, fun a b => ?_⟩
  obtain ⟨first, before, ha⟩ := exists_splitOn '\n' a
  obtain ⟨second, behind, hb⟩ := exists_splitOn '\n' b
  have hab : splitOn '\n' (a ++ '\n' :: b) = first :: (before ++ second :: behind) := by
    rw [Text.splitOn_eq, List.splitOn_append_cons_self, ← Text.splitOn_eq, ← Text.splitOn_eq, ha, hb]
    rfl
  rw [hwrap, hwrap, hwrap, wrapLines_eq ha, wrapLines_eq hb, wrapLines_eq hab]
  simp

end StoryBlanks.Wrap
