import StoryBlanks.Proofs.Template.Pairs
import Mathlib.Algebra.GroupWithZero.Nat

/-!
# What comes of filling

Main statement: filling a malformed template fails as cutting it up does, whatever the responses are;
filling with too few or too many responses tells how many there should be; and otherwise the result
is the text before, between and behind the blanks with a response in each place where a blank was.
-/
namespace StoryBlanks.Template

/-- What stands in the text from `s` on before, between and behind the given spans of it. -/
def stretches (t : Text) (s : Nat) : List (Nat × Nat) → List Text
  | [] => [t.drop s]
  | (a, b) :: ps => (t.drop s).take (a - s) :: stretches t b ps

variable {t x r : Text} {k : Nat} {ts : List Token} {xs : List Symbol} {ps : List (Nat × Nat)}
  {rs : List Text}

/-! ## Counts and lengths -/

theorem length_spans (ts : List Token) : (spans ts).length = (blanks (symbols ts)).length := by
  induction ts with
  | nil => rfl
  | cons y ts ih => cases y <;> simp [Token.symbols, ih]

/-- Too few or too many responses leave nothing put together. -/
theorem assemble_eq_none (h : rs.length ≠ (spans ts).length) : assemble ts rs = none := by
  induction ts generalizing rs with
  | nil =>
    cases rs with
    | nil => exact absurd rfl h
    | cons r rs => rfl
  | cons y ts ih =>
    cases y with
    | run s e z => rw [assemble, ih (by simpa using h), Option.map_none]
    | blank s e l =>
      cases rs with
      | nil => rfl
      | cons r rs =>
        rw [assemble, ih (by simpa using h), Option.map_none]

/-- A blank is written as its label and two braces. -/
theorem length_weave (h : rs.length = (blanks xs).length) :
    (weave xs rs).length + ((blanks xs).map fun l => l.length + 2).sum =
      (write xs).length + (rs.map List.length).sum := by
  induction xs generalizing rs with
  | nil => simp [List.length_eq_zero_iff.mp h, weave]
  | cons y xs ih =>
    cases y with
    | letter c =>
      have hrest := ih h
      simp only [weave, blanks_letter, write_cons, Symbol.write, List.length_cons, List.length_append,
        List.length_nil]
      omega
    | blank l =>
      cases rs with
      | nil => simp at h
      | cons r rs =>
        have hrest := ih (Nat.succ.inj h)
        simp only [weave, blanks_blank, write_cons, Symbol.write, List.map_cons, List.sum_cons,
          List.length_append, List.length_cons, List.length_nil]
        omega

theorem NormalFrom.widths (h : NormalFrom k ts) :
    (spans ts).map (fun p => p.2 - p.1) = (blanks (symbols ts)).map fun l => l.length + 2 := by
  induction h with
  | nil => rfl
  | run _ _ _ _ ih => simp [Token.symbols, ih]
  | @blank k l ts _ _ _ ih =>
    have hwidth : k + l.length + 2 - k = l.length + 2 := by omega
    simp [Token.symbols, ih, hwidth]

/-! ## Gaps are stretches -/

theorem gaps_letters_append (x : Text) (xs : List Symbol) :
    gaps (letters x ++ xs) = (gaps xs).modifyHead (x ++ ·) := by
  induction x with
  | nil => cases hg : gaps xs <;> simp [hg]
  | cons c x ih =>
    rw [letters_cons, List.cons_append, gaps, ih]
    cases gaps xs <;> rfl

/-- A text in front of all the spans belongs to the first stretch. -/
theorem stretches_append (hdrop : t.drop k = x ++ r) (hps : ∀ p ∈ ps, k + x.length ≤ p.1) :
    stretches t k ps = (stretches t (k + x.length) ps).modifyHead (x ++ ·) := by
  have hr : t.drop (k + x.length) = r := by rw [← List.drop_drop, hdrop, List.drop_left]
  cases ps with
  | nil => simp [stretches, hdrop, hr]
  | cons p ps =>
    have hle := hps p (by simp)
    have hsplit : p.1 - k = x.length + (p.1 - (k + x.length)) := by omega
    have htake : (x ++ r).take (p.1 - k) = x ++ r.take (p.1 - (k + x.length)) := by
      rw [hsplit, List.take_length_add_append]
    simp [stretches, hdrop, hr, htake]

/-- The gaps of a normal list are what the spans of its blanks leave of the template. -/
theorem NormalFrom.gaps_eq_stretches (h : NormalFrom k ts) {pre : Text} (hpre : pre.length = k) :
    gaps (symbols ts) = stretches (pre ++ render ts) k (spans ts) := by
  induction h generalizing pre with
  | nil k => simp [gaps, stretches, hpre]
  | @run k x ts _ _ _ rest ih =>
    have hlen : (pre ++ x).length = k + x.length := by rw [List.length_append, hpre]
    have hdrop : (pre ++ (x ++ render ts)).drop k = x ++ render ts := by
      rw [← hpre, List.drop_left]
    have hbehind : ∀ p ∈ spans ts, k + x.length ≤ p.1 := by
      intro p hp
      obtain ⟨l, hl⟩ := mem_spans.mp hp
      exact rest.le_start _ hl
    rw [symbols_cons, Token.symbols, gaps_letters_append, ih hlen, List.append_assoc, spans_run,
      render_cons, Token.render, stretches_append hdrop hbehind]
  | @blank k l ts _ _ _ ih =>
    have hlen : (pre ++ '{' :: (l ++ ['}'])).length = k + l.length + 2 := by
      simp only [List.length_append, List.length_cons, List.length_nil, hpre]
      omega
    rw [symbols_cons, Token.symbols, List.singleton_append, gaps, ih hlen, spans_blank, stretches,
      Nat.sub_self, List.take_zero, render_cons, Token.render, List.append_assoc]

/-- The literal parts of the tokens are the stretches of the template between their spans. -/
theorem weave_eq_stretches (h : tokens t = .ok ts) (hlen : rs.length = (spans ts).length) :
    weave (symbols ts) rs =
      (List.zipWith (· ++ ·) (stretches t 0 (spans ts)) (rs ++ [[]])).flatten := by
  obtain ⟨hn, rfl⟩ := tokens_eq_ok_iff.mp h
  have hgaps : gaps (symbols ts) = stretches ([] ++ render ts) 0 (spans ts) :=
    hn.gaps_eq_stretches rfl
  rw [weave_eq_gaps (hlen.trans (length_spans ts)), hgaps, List.nil_append]

/-! ## Filling -/

theorem fill_of_error {e : Unmatched} (h : tokens t = .error e) :
    fill t rs = .error (.unmatched e) := by
  simp only [fill, h]

theorem fill_of_length_ne (h : tokens t = .ok ts) (hne : rs.length ≠ (spans ts).length) :
    fill t rs = .error (.count (spans ts).length rs.length) := by
  simp only [fill, h, assemble_eq_none hne]
  rw [← blanks_symbols, ← length_spans]

theorem fill_of_length_eq (h : tokens t = .ok ts) (hlen : rs.length = (spans ts).length) :
    fill t rs = .ok (weave (symbols ts) rs) := by
  simp only [fill, h, assemble_eq (hlen.trans (length_spans ts))]

theorem exists_fill_iff :
    (∃ s, fill t rs = .ok s) ↔ ∃ ls, labels t = .ok ls ∧ ls.length = rs.length := by
  constructor
  · rintro ⟨s, hs⟩
    cases h : tokens t with
    | error e =>
      rw [fill_of_error h] at hs
      exact absurd hs (by simp)
    | ok ts =>
      refine ⟨_, labels_eq_inside h, ?_⟩
      rw [List.length_map]
      by_contra hne
      rw [fill_of_length_ne h (Ne.symm hne)] at hs
      exact absurd hs (by simp)
  · rintro ⟨ls, hls, hlen⟩
    exact exists_fill hls hlen.symm

/-- Filling a template: it fails as cutting it up does, or for the number of responses, or puts each
response between the stretches of text around its blank. It succeeds for as many responses as there
are labels. -/
theorem fill_between (t : Text) (rs : List Text) :
    (∀ e, tokens t = .error e → fill t rs = .error (.unmatched e)) ∧
      (∀ ts, tokens t = .ok ts →
        (rs.length ≠ (spans ts).length → fill t rs = .error (.count (spans ts).length rs.length)) ∧
          (rs.length = (spans ts).length → ∃ s, fill t rs = .ok s ∧
            s = (List.zipWith (· ++ ·) (stretches t 0 (spans ts)) (rs ++ [[]])).flatten ∧
            s.length + ((spans ts).map fun p => p.2 - p.1).sum =
              t.length + (rs.map List.length).sum)) ∧
      ((∃ s, fill t rs = .ok s) ↔ ∃ ls, labels t = .ok ls ∧ ls.length = rs.length) := by
  refine ⟨fun e h => fill_of_error h, ?_, exists_fill_iff⟩
  intro ts h
  refine ⟨fun hne => fill_of_length_ne h hne, ?_⟩
  intro hlen
  refine ⟨_, fill_of_length_eq h hlen, weave_eq_stretches h hlen, ?_⟩
  obtain ⟨hn, rfl⟩ := tokens_eq_ok_iff.mp h
  rw [hn.widths, length_weave (hlen.trans (length_spans ts)), write_symbols]

/-- Two blanks next to each other and an opening brace behind them that is never closed, filled with
too few responses and with enough; and a closing brace too many behind a blank, which is told before
the missing response. -/
theorem fill_between_adjacent :
    tokens ['a', '{', 'b', '}', '{', '}', '{'] =
        .ok [.run 0 1 ['a'], .blank 1 4 ['b'], .blank 4 6 [], .run 6 7 ['{']] ∧
      fill ['a', '{', 'b', '}', '{', '}', '{'] [['}']] = .error (.count 2 1) ∧
      (∃ s, fill ['a', '{', 'b', '}', '{', '}', '{'] [['}'], ['c', 'd']] = .ok s ∧
        s = ['a', '}', 'c', 'd', '{']) ∧
      fill ['{', '}', '}'] [] = .error (.unmatched ⟨2⟩) := by
  have h : tokens ['a', '{', 'b', '}', '{', '}', '{'] =
      .ok [.run 0 1 ['a'], .blank 1 4 ['b'], .blank 4 6 [], .run 6 7 ['{']] := rfl
  obtain ⟨hcount, -⟩ := (fill_between _ [['}']]).2.1 _ h
  obtain ⟨-, hfilled⟩ := (fill_between _ [['}'], ['c', 'd']]).2.1 _ h
  obtain ⟨s, hs, htext, -⟩ := hfilled rfl
  have hstray : fill ['{', '}', '}'] [] = .error (.unmatched ⟨2⟩) := (fill_between _ []).1 ⟨2⟩ rfl
  exact ⟨h, hcount (by decide), ⟨s, hs, htext.trans (by decide)⟩, hstray⟩

end StoryBlanks.Template
