import StoryBlanks.Proofs.Wrap.Lines

/-!
# Wrapping breaks late and rarely

Among all ways to turn blanks of a text into newlines such that every line fits, wrapping makes
each break as late as can be. Main statement: wherever one stops in the text, no other way has made
fewer newlines up to there; so the k-th newline of wrapped text is never before another's, and no
way gets by with fewer.
-/
namespace StoryBlanks.Wrap

open Text (isBlank closedLines closedLines_snoc)

/-- At every place the text `u` has had at least as many newlines as `s`. -/
def Ahead (u s : Text) : Prop := ∀ i, (s.take i).count '\n' ≤ (u.take i).count '\n'

namespace Ahead

variable {u v s r : Text}

theorem count_le (h : Ahead u s) : s.count '\n' ≤ u.count '\n' := by
  have hall := h (max u.length s.length)
  rwa [List.take_of_length_le (by omega), List.take_of_length_le (by omega)] at hall

theorem of_append (hlen : u.length = s.length) (h : Ahead (u ++ v) (s ++ r)) : Ahead u s := by
  intro i
  by_cases hi : i ≤ s.length
  · have hcut := h i
    rwa [List.take_append_of_le_length hi, List.take_append_of_le_length (by omega)] at hcut
  · have hcut := h s.length
    rw [List.take_append_of_le_length (by omega), List.take_append_of_le_length (by omega)] at hcut
    rwa [List.take_of_length_le (by omega), List.take_of_length_le (by omega)] at hcut ⊢

/-- Characters that are no newlines do not catch up. -/
theorem append_inline (h : Ahead u s) (hr : '\n' ∉ r) : Ahead (u ++ v) (s ++ r) := by
  intro i
  have hnone : (r.take (i - s.length)).count '\n' = 0 :=
    List.count_eq_zero.mpr fun hm => hr (List.mem_of_mem_take hm)
  rw [List.take_append, List.take_append, List.count_append, List.count_append, hnone]
  exact Nat.le_add_right_of_le (h i)

/-- A newline keeps the order if the other text has had one more by then. -/
theorem snoc_newline {d : Char} (hlen : u.length = s.length) (h : Ahead u s)
    (hcount : s.count '\n' < (u ++ [d]).count '\n') : Ahead (u ++ [d]) (s ++ ['\n']) := by
  intro i
  by_cases hi : i ≤ s.length
  · rw [List.take_append_of_le_length hi, List.take_append_of_le_length (by omega)]
    exact h i
  · rw [List.take_of_length_le (by simp; omega), List.take_of_length_le (by simp; omega),
      List.count_append, List.count_singleton_self]
    omega

/-- A newline in what follows puts the other text one ahead. -/
theorem count_lt {z : Text} (hlen : u.length = s.length) (h : Ahead (u ++ v) (s ++ r))
    (hz : '\n' ∈ z) (hr : '\n' ∉ r) : (s ++ r).count '\n' < (u ++ z).count '\n' := by
  have hle := (h.of_append hlen).count_le
  have hpos := List.count_pos_iff.mpr hz
  rw [List.count_append, List.count_append, List.count_eq_zero.mpr hr]
  omega

/-- Then each newline is matched by one of the same number that is not behind it. -/
theorem exists_idxsOf_le (h : Ahead u s) {k i : Nat} (hk : (s.idxsOf '\n')[k]? = some i) :
    ∃ j ≤ i, (u.idxsOf '\n')[k]? = some j := by
  obtain ⟨hlt, rfl⟩ := List.getElem?_eq_some_iff.mp hk
  have hcount : k < s.count '\n' := by rwa [List.length_idxsOf] at hlt
  rw [List.getElem_idxOf_eq_idxOfNth]
  have hin : s.idxOfNth '\n' k < s.length := List.idxOfNth_lt_length_of_lt_count hcount
  have hbefore : (s.take (s.idxOfNth '\n' k)).count '\n' = k := by
    rw [← List.countBefore_eq_count_take, List.countBefore_idxOfNth_of_lt_count hcount]
  have hupto : k < (u.take (s.idxOfNth '\n' k + 1)).count '\n' := by
    have hs := h (s.idxOfNth '\n' k + 1)
    rw [List.take_succ_eq_append_getElem hin, List.count_append, hbefore,
      List.getElem_idxOfNth_eq, List.count_singleton_self] at hs
    omega
  have hidx : (u.take (s.idxOfNth '\n' k + 1)).idxsOf '\n' =
      (u.idxsOf '\n').take ((u.take (s.idxOfNth '\n' k + 1)).count '\n') := List.idxsOf_take
  have hlen : k < ((u.take (s.idxOfNth '\n' k + 1)).idxsOf '\n').length := by
    rwa [List.length_idxsOf]
  have hj := List.getElem_idxsOf_lt hlen
  refine ⟨((u.take (s.idxOfNth '\n' k + 1)).idxsOf '\n')[k], ?_, ?_⟩
  · rw [List.length_take] at hj
    omega
  · rw [← List.getElem?_eq_getElem hlen, hidx, List.getElem?_take_of_lt hupto]

end Ahead

/-- A stretch past the width has to be broken at a blank, and not in its solid end. -/
theorem Fitted.newline_mem {w : Nat} {u v r z s : Text} (hf : Fitted w (u ++ (v ++ r)))
    (hv : Breaks z v) (hr : Breaks s r) (hs : Solid s) (hlong : w < z.length + s.length)
    (hblank : ¬ Solid z) : '\n' ∈ v := by
  by_contra hn
  obtain rfl := hv.eq_of_newline_not_mem hn
  obtain rfl := hr.eq_of_solid hs
  have hnone : '\n' ∉ v ++ r := by
    rw [List.mem_append, not_or]
    exact ⟨hn, hs.newline_not_mem⟩
  rcases hf.fits_stretch (List.suffix_append u (v ++ r)).isInfix hnone with h | h
  · rw [List.length_append] at h
    omega
  · exact hblank fun c hc => h c (List.mem_append_left r hc)

namespace Breaks

variable {t u : Text} {c : Char}

theorem of_snoc_left (h : Breaks (t ++ [c]) u) :
    ∃ v d, u = v ++ [d] ∧ Breaks t v ∧ Kept c d := by
  obtain ⟨v, z, rfl, hv, hz⟩ := h.of_append_left
  cases hz with
  | cons hk hnil =>
    cases hnil
    exact ⟨v, _, rfl, hv, hk⟩

theorem set (h : Breaks t u) {i : Nat} (ht : t[i]? = some c) : Breaks t (u.set i c) := by
  induction h generalizing i with
  | nil => simp at ht
  | cons hk hrest ih =>
    cases i with
    | zero =>
      obtain rfl : _ = c := by simpa using ht
      exact .cons (.inl rfl) hrest
    | succ i => exact .cons hk (ih (by simpa using ht))

end Breaks

namespace Lays

variable {w k : Nat} {t l : Text} {lines : List Text}

/-- The open line is the end of the text as it was read. -/
theorem exists_closed_part (h : Lays w t lines l k) :
    ∃ r, t = r ++ l ∧ Breaks r (closedLines lines) := by
  obtain ⟨r, m, rfl, hr, hm⟩ := h.breaks.of_append_right
  obtain rfl := hm.eq_of_newline_not_mem h.newline_not_mem_open
  exact ⟨r, rfl, hr⟩

/-- Every fitting way to break what was read is ahead of the layout: by induction on the moves. A
newline that the layout puts in ends a stretch past the width that has a blank, and the other way
has broken that stretch too, at this place or before. -/
theorem ahead (h : Lays w t lines l k) {v : Text} (hb : Breaks t v) (hf : Fitted w v) :
    Ahead v (closedLines lines ++ l) := by
  induction h generalizing v with
  | start => intro i; simp
  | @close t l lines k c before hends ih =>
    obtain ⟨v, d, rfl, hv, hk⟩ := hb.of_snoc_left
    have hahead := ih hv hf.of_append_left
    obtain ⟨r, rfl, hr⟩ := before.exists_closed_part
    obtain ⟨v₁, v₂, rfl, hv₁, hv₂⟩ := hv.of_append_left
    have hlen : v₁.length = (closedLines lines).length := by rw [hv₁.length_eq, hr.length_eq]
    -- Both ways have the newline of the text, or the line and its blank are past the width.
    have hnew : '\n' ∈ v₂ ++ [d] := by
      rcases hends with rfl | ⟨hc, hfull⟩
      · rcases hk with rfl | ⟨-, rfl⟩ <;> simp
      · have hf' : Fitted w (v₁ ++ (v₂ ++ [d] ++ [])) := by simpa using hf
        refine hf'.newline_mem (hv₂.append (.single hk)) .nil (by simp [Solid]) (by simp; omega) ?_
        intro hsolid
        exact absurd hc (by simp [hsolid c (by simp)])
    have hcount := hahead.count_lt hlen hnew before.newline_not_mem_open
    rw [closedLines_snoc, List.append_nil, ← List.append_assoc]
    refine hahead.snoc_newline ?_ (by simpa using hcount)
    simp [hlen, hv₂.length_eq]
  | @extend t l lines k c _ hn _ ih =>
    obtain ⟨v, d, rfl, hv, -⟩ := hb.of_snoc_left
    have hahead := ih hv hf.of_append_left
    rw [← List.append_assoc]
    exact hahead.append_inline (by simpa using Ne.symm hn)
  | @overrun t l lines k c _ hsolid _ ih =>
    obtain ⟨v, d, rfl, hv, -⟩ := hb.of_snoc_left
    have hahead := ih hv hf.of_append_left
    have hn := hsolid.newline_not_mem
    rw [List.mem_append, not_or] at hn
    rw [← List.append_assoc]
    exact hahead.append_inline hn.2
  | @turn t x y lines k b c before hblank hsolid hfull ih =>
    obtain ⟨v, d, rfl, hv, hk⟩ := hb.of_snoc_left
    have hahead := ih hv hf.of_append_left
    obtain ⟨r, rfl, hr⟩ := before.exists_closed_part
    rw [show r ++ (x ++ b :: y) = r ++ x ++ [b] ++ y by simp] at hv
    rw [show closedLines lines ++ (x ++ b :: y) = closedLines lines ++ x ++ (b :: y) by simp]
      at hahead
    obtain ⟨v, v₃, rfl, hv, hv₃⟩ := hv.of_append_left
    obtain ⟨v, e, rfl, hv, hke⟩ := hv.of_snoc_left
    obtain ⟨v₁, v₂, rfl, hv₁, hv₂⟩ := hv.of_append_left
    have hlen : v₁.length = (closedLines lines).length := by rw [hv₁.length_eq, hr.length_eq]
    have hlen' : (v₁ ++ v₂).length = (closedLines lines ++ x).length := by
      simp [hlen, hv₂.length_eq]
    have hx : '\n' ∉ x := fun hm => before.newline_not_mem_open (by simp [hm])
    have hend : Breaks (y ++ [c]) (v₃ ++ [d]) := hv₃.append (.single hk)
    -- The other way cannot have broken the line behind its last blank.
    have hnew : '\n' ∈ v₂ ++ [e] := by
      have hf' : Fitted w (v₁ ++ (v₂ ++ [e] ++ (v₃ ++ [d]))) := by simpa using hf
      refine hf'.newline_mem (hv₂.append (.single hke)) hend hsolid (by simp at hfull ⊢; omega) ?_
      intro hs
      exact absurd hblank (by simp [hs b (by simp)])
    rw [List.append_assoc (v₁ ++ v₂)] at hahead
    have hprefix := hahead.of_append hlen'
    have hcount := hprefix.count_lt hlen hnew hx
    have hturn : Ahead (v₁ ++ v₂ ++ [e]) (closedLines lines ++ x ++ ['\n']) :=
      hprefix.snoc_newline hlen' (by simpa using hcount)
    have hall := hturn.append_inline (v := v₃ ++ [d]) hsolid.newline_not_mem
    rw [closedLines_snoc]
    simpa using hall

end Lays

/-- Wrapping breaks lines as late as any other fitting text does. -/
theorem wrap_ahead {w : Nat} {t u : Text} (hb : Breaks t u) (hf : Fitted w u) :
    Ahead u (wrap w t) := by
  obtain ⟨lines, l, k, h, he⟩ := exists_lays_wrap w t
  rw [he]
  exact h.ahead hb hf

/-- Undoing a newline leaves one fewer. -/
theorem count_set_newline {u : Text} {i : Nat} {c : Char} (hu : u[i]? = some '\n') (hc : c ≠ '\n') :
    (u.set i c).count '\n' < u.count '\n' := by
  obtain ⟨hi, hget⟩ := List.getElem?_eq_some_iff.mp hu
  have hpos : 0 < u.count '\n' := List.count_pos_iff.mpr (hget ▸ List.getElem_mem hi)
  rw [List.count_set hi, hget, if_pos (beq_self_eq_true '\n'), if_neg (by simpa using hc)]
  omega

/-- Wrapping is one of the ways to break a text so that its lines fit. Every other such way has
each newline that wrapping has, by number, at its place or before, and so no fewer of them; and no
newline that wrapping put in can be undone. -/
theorem wrap_greedy (w : Width) (t : Text) :
    (Breaks t (wrap w.toNat t) ∧ Fitted w.toNat (wrap w.toNat t)) ∧
      (∀ u : Text, Breaks t u → Fitted w.toNat u →
        (∀ k i : Nat, ((wrap w.toNat t).idxsOf '\n')[k]? = some i →
          ∃ j ≤ i, (u.idxsOf '\n')[k]? = some j) ∧
        (wrap w.toNat t).count '\n' ≤ u.count '\n') ∧
      ∀ (i : Nat) (c : Char), t[i]? = some c → c ≠ '\n' → (wrap w.toNat t)[i]? = some '\n' →
        ¬ Fitted w.toNat ((wrap w.toNat t).set i c) := by
  have hb := wrap_breaks w.toNat t
  refine ⟨⟨hb, wrap_fitted w.toNat t⟩, ?_, ?_⟩
  · intro u hu hf
    have hahead := wrap_ahead hu hf
    exact ⟨fun k i hk => hahead.exists_idxsOf_le hk, hahead.count_le⟩
  · intro i c ht hc hi hf
    have hle := (wrap_ahead (hb.set ht) hf).count_le
    have hlt := count_set_newline hi hc
    omega

/-- Breaking at every blank is a way that fits; wrapping makes its first break later, and that one
cannot be undone. -/
theorem wrap_greedy_two_ways :
    Breaks ['a', ' ', 'b', ' ', 'c'] ['a', '\n', 'b', '\n', 'c'] ∧
      Fitted 3 ['a', '\n', 'b', '\n', 'c'] ∧
      ((wrap 3 ['a', ' ', 'b', ' ', 'c']).idxsOf '\n')[0]? = some 3 ∧
      (∃ j ≤ 3, ((['a', '\n', 'b', '\n', 'c'] : Text).idxsOf '\n')[0]? = some j) ∧
      ¬ Fitted 3 ((wrap 3 ['a', ' ', 'b', ' ', 'c']).set 3 ' ') := by
  have hb : Breaks ['a', ' ', 'b', ' ', 'c'] ['a', '\n', 'b', '\n', 'c'] := by decide
  have hf : Fitted 3 ['a', '\n', 'b', '\n', 'c'] := by decide
  have hk : ((wrap 3 ['a', ' ', 'b', ' ', 'c']).idxsOf '\n')[0]? = some 3 := by decide
  obtain ⟨-, hways, hundo⟩ := wrap_greedy ⟨3, by decide⟩ ['a', ' ', 'b', ' ', 'c']
  exact ⟨hb, hf, hk, (hways _ hb hf).1 0 3 hk, hundo 3 ' ' rfl (by decide) (by decide)⟩

end StoryBlanks.Wrap
