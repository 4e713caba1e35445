import StoryBlanks.Proofs.Template.Nesting
import Mathlib.Data.Nat.Find

/-!
# Closing braces that close nothing

Whether a blank is open at a place of a template is a matter of the last brace before it. Main
statement: a template is malformed at the first closing brace with no opening brace between it and
the closing brace before it, and nowhere else; what stands before that place is well-formed, and
what stands behind it does not matter.
-/
namespace StoryBlanks.Template

def Plain (t : Text) (i j : Nat) : Prop :=
  ∀ k < j, i ≤ k → t[k]? ≠ some '{' ∧ t[k]? ≠ some '}'

/-- The last brace before `i` is an opening one. -/
def OpenAt (t : Text) (i : Nat) : Prop := ∃ k < i, t[k]? = some '{' ∧ Plain t (k + 1) i

/-- No brace stands between `i` and the closing brace before it, or the beginning of the text. -/
def ClosedAt (t : Text) (i : Nat) : Prop :=
  ∃ s ≤ i, (s = 0 ∨ t[s - 1]? = some '}') ∧ Plain t s i

/-- A closing brace with no opening brace between it and the closing brace before it, or the
beginning of the text. -/
def Unopened (t : Text) (i : Nat) : Prop := t[i]? = some '}' ∧ ClosedAt t i

instance (t : Text) (i j : Nat) : Decidable (Plain t i j) :=
  inferInstanceAs (Decidable (∀ k < j, i ≤ k → t[k]? ≠ some '{' ∧ t[k]? ≠ some '}'))

instance (t : Text) (i : Nat) : Decidable (ClosedAt t i) :=
  inferInstanceAs (Decidable (∃ s ≤ i, (s = 0 ∨ t[s - 1]? = some '}') ∧ Plain t s i))

instance (t : Text) (i : Nat) : Decidable (Unopened t i) :=
  inferInstanceAs (Decidable (t[i]? = some '}' ∧ ClosedAt t i))

variable {t u : Text} {i j : Nat} {c : Char}

/-! ## Open and closed places -/

theorem Plain.empty (t : Text) (i : Nat) : Plain t i i := by
  intro k hk hi
  omega

theorem Plain.snoc (h : Plain t i j) (hc : t[j]? = some c) (ho : c ≠ '{') (hcl : c ≠ '}') :
    Plain t i (j + 1) := by
  intro k hk hi
  by_cases he : k = j
  · subst he
    simp [hc, ho, hcl]
  · exact h k (by omega) hi

theorem closedAt_zero (t : Text) : ClosedAt t 0 := ⟨0, Nat.le_refl 0, .inl rfl, Plain.empty t 0⟩

theorem openAt_succ (h : t[i]? = some '{') : OpenAt t (i + 1) :=
  ⟨i, Nat.lt_succ_self i, h, Plain.empty t (i + 1)⟩

theorem closedAt_succ (h : t[i]? = some '}') : ClosedAt t (i + 1) :=
  ⟨i + 1, Nat.le_refl _, .inr h, Plain.empty t (i + 1)⟩

theorem OpenAt.snoc (h : OpenAt t i) (hc : t[i]? = some c) (ho : c ≠ '{') (hcl : c ≠ '}') :
    OpenAt t (i + 1) := by
  obtain ⟨k, hk, hopen, hplain⟩ := h
  exact ⟨k, by omega, hopen, hplain.snoc hc ho hcl⟩

theorem ClosedAt.snoc (h : ClosedAt t i) (hc : t[i]? = some c) (ho : c ≠ '{') (hcl : c ≠ '}') :
    ClosedAt t (i + 1) := by
  obtain ⟨s, hs, hclose, hplain⟩ := h
  exact ⟨s, by omega, hclose, hplain.snoc hc ho hcl⟩

/-- No place is both: whichever of the two braces stands behind the other is in its way. -/
theorem OpenAt.not_closedAt (h : OpenAt t i) : ¬ ClosedAt t i := by
  obtain ⟨k, hk, hopen, hbehind⟩ := h
  rintro ⟨s, hs, hclose, hbefore⟩
  by_cases hle : s ≤ k
  · exact (hbefore k hk hle).1 hopen
  · rcases hclose with hzero | hclose
    · omega
    · have hne : s - 1 ≠ k := by
        intro he
        rw [he, hopen] at hclose
        exact absurd hclose (by decide)
      exact (hbehind (s - 1) (by omega) (by omega)).2 hclose

/-- Only the text up to the brace says whether it closes anything. -/
theorem Unopened.of_agree (hu : Unopened t i) (h : ∀ k ≤ i, u[k]? = t[k]?) : Unopened u i := by
  obtain ⟨hi, s, hs, hclose, hplain⟩ := hu
  refine ⟨by rw [h i (Nat.le_refl i), hi], s, hs, ?_, ?_⟩
  · rcases hclose with hzero | hclose
    · exact .inl hzero
    · exact .inr (by rw [h (s - 1) (by omega), hclose])
  · intro k hk hsk
    rw [h k (by omega)]
    exact hplain k hk hsk

/-! ## The scanner -/

/-- The scanner holds a label exactly while a blank is open. -/
def Holds (t : Text) (i : Nat) : Option Text → Prop
  | none => ClosedAt t i
  | some _ => OpenAt t i

/-- The first unopened closing brace from `i` on stands at `j`. -/
def FirstFrom (t : Text) (i j : Nat) : Prop :=
  i ≤ j ∧ Unopened t j ∧ ∀ k < j, i ≤ k → ¬ Unopened t k

theorem firstFrom_here (h : Unopened t i) : FirstFrom t i j ↔ j = i := by
  constructor
  · rintro ⟨hle, -, hnone⟩
    by_contra hne
    exact hnone i (by omega) (Nat.le_refl i) h
  · rintro rfl
    refine ⟨Nat.le_refl j, h, ?_⟩
    intro k hk hj
    omega

theorem firstFrom_succ (h : ¬ Unopened t i) : FirstFrom t i j ↔ FirstFrom t (i + 1) j := by
  constructor
  · rintro ⟨hle, hu, hnone⟩
    have hne : j ≠ i := fun he => h (he ▸ hu)
    exact ⟨by omega, hu, fun k hk hi => hnone k hk (by omega)⟩
  · rintro ⟨hle, hu, hnone⟩
    refine ⟨by omega, hu, ?_⟩
    intro k hk hi
    by_cases he : k = i
    · exact he ▸ h
    · exact hnone k hk (by omega)

/-- What the scanner makes of one more character: it stops at an unopened closing brace and at
nothing else, and if it goes on, the slot says again whether a blank is open. -/
theorem scan_step {start : Nat} {run : Text} {slot : Option Text} (hc : t[i]? = some c)
    (hplace : start + (held run slot).length = i) (hslot : Holds t i slot) :
    (Unopened t i ∧ ∀ cs, scan start run slot (c :: cs) = .error ⟨i⟩) ∨
      ¬ Unopened t i ∧ ∃ start' run' slot', start' + (held run' slot').length = i + 1 ∧
        Holds t (i + 1) slot' ∧
        ∀ cs e, scan start run slot (c :: cs) = .error e ↔ scan start' run' slot' cs = .error e := by
  by_cases ho : c = '{'
  · subst ho
    have hnot : ¬ Unopened t i := fun hu => absurd (hc.symm.trans hu.1) (by decide)
    refine .inr ⟨hnot, start, held run slot, some [], ?_, openAt_succ hc, ?_⟩
    · rw [← hplace]
      rfl
    · intro cs e
      rw [scan_open]
  by_cases hcl : c = '}'
  · subst hcl
    cases slot with
    | none =>
      refine .inl ⟨⟨hc, hslot⟩, fun cs => ?_⟩
      simp [scan, ← hplace, held]
    | some l =>
      have hnot : ¬ Unopened t i := fun hu => OpenAt.not_closedAt hslot hu.2
      refine .inr ⟨hnot, start + run.length + l.length + 2, [], none, ?_, closedAt_succ hc, ?_⟩
      · simp only [held, List.length_append, List.length_cons, List.length_nil] at hplace ⊢
        omega
      · intro cs e
        cases hscan : scan (start + run.length + l.length + 2) [] none cs with
        | ok rest => simp [scan_close start run l cs hscan]
        | error e' => simp [scan, hscan]
  · have hnot : ¬ Unopened t i := fun hu => hcl (Option.some.inj (hc.symm.trans hu.1))
    cases slot with
    | none =>
      refine .inr ⟨hnot, start, c :: run, none, ?_, ClosedAt.snoc hslot hc ho hcl, ?_⟩
      · rw [← hplace]
        rfl
      · intro cs e
        simp [scan, ho, hcl]
    | some l =>
      refine .inr ⟨hnot, start, run, some (c :: l), ?_, OpenAt.snoc hslot hc ho hcl, ?_⟩
      · rw [← hplace]
        rfl
      · intro cs e
        simp [scan, ho, hcl]

/-- By induction on what is still to be read, one step for each character. -/
theorem scan_eq_error_iff {cs : Text} {start : Nat} {run : Text} {slot : Option Text}
    {e : Unmatched} (hdrop : t.drop i = cs) (hplace : start + (held run slot).length = i)
    (hslot : Holds t i slot) :
    scan start run slot cs = .error e ↔ FirstFrom t i e.position := by
  induction cs generalizing i start run slot with
  | nil =>
    have hlen : t.length ≤ i := List.drop_eq_nil_iff.mp hdrop
    have hnone : ¬ FirstFrom t i e.position := by
      rintro ⟨hle, hu, -⟩
      have hlt := (List.getElem?_eq_some_iff.mp hu.1).1
      omega
    simp [scan_nil, hnone]
  | cons c cs ih =>
    have hc : t[i]? = some c := by
      rw [← Nat.add_zero i, ← List.getElem?_drop, hdrop]
      rfl
    have hrest : t.drop (i + 1) = cs := by
      rw [← List.drop_drop, hdrop]
      rfl
    rcases scan_step hc hplace hslot with
      ⟨hu, hstop⟩ | ⟨hu, start', run', slot', hplace', hslot', hon⟩
    · rw [hstop, firstFrom_here hu]
      constructor
      · intro h
        rw [← Except.error.inj h]
      · intro h
        rw [← h]
    · rw [hon, ih hrest hplace' hslot', firstFrom_succ hu]

/-! ## Malformed templates -/

/-- Cutting up fails at the least unopened closing brace. -/
theorem tokens_eq_error_iff {e : Unmatched} :
    tokens t = .error e ↔ Unopened t e.position ∧ ∀ j < e.position, ¬ Unopened t j := by
  have h : tokens t = .error e ↔ FirstFrom t 0 e.position :=
    scan_eq_error_iff rfl rfl (closedAt_zero t)
  simpa [FirstFrom] using h

theorem wellFormed_iff_not_unopened : WellFormed t ↔ ∀ i, ¬ Unopened t i := by
  constructor
  · rintro ⟨ts, h⟩ i hu
    have hex : ∃ i, Unopened t i := ⟨i, hu⟩
    have herr : tokens t = .error ⟨Nat.find hex⟩ :=
      tokens_eq_error_iff.mpr ⟨Nat.find_spec hex, fun j hj => Nat.find_min hex hj⟩
    rw [h] at herr
    exact absurd herr (by simp)
  · intro hnone
    cases h : tokens t with
    | ok ts => exact ⟨ts, h⟩
    | error e =>
      obtain ⟨hu, -⟩ := tokens_eq_error_iff.mp h
      exact absurd hu (hnone e.position)

/-- A template is malformed if and only if a closing brace has no opening one between it and the
closing brace before it, or the beginning, and then by the first such brace. The template up to
there is well-formed, and every template that begins like this one, brace included, is malformed at
the same place. -/
theorem malformed_at_first_unopened (t : Text) :
    ((∃ e, tokens t = .error e) ↔ ∃ i, Unopened t i) ∧
      ∀ e : Unmatched, tokens t = .error e →
        (Unopened t e.position ∧ ∀ j < e.position, ¬ Unopened t j) ∧
          WellFormed (t.take e.position) ∧
          ∀ u : Text, t.take (e.position + 1) <+: u → tokens u = .error e := by
  refine ⟨⟨?_, ?_⟩, ?_⟩
  · rintro ⟨e, h⟩
    exact ⟨e.position, (tokens_eq_error_iff.mp h).1⟩
  · rintro ⟨i, hu⟩
    cases h : tokens t with
    | ok ts => exact absurd hu (wellFormed_iff_not_unopened.mp ⟨ts, h⟩ i)
    | error e => exact ⟨e, rfl⟩
  · intro e h
    obtain ⟨hu, hleast⟩ := tokens_eq_error_iff.mp h
    refine ⟨⟨hu, hleast⟩, wellFormed_iff_not_unopened.mpr ?_, ?_⟩
    · intro j hj
      have hlt : j < e.position := by
        have hlen := (List.getElem?_eq_some_iff.mp hj.1).1
        rw [List.length_take] at hlen
        omega
      refine hleast j hlt (hj.of_agree ?_)
      intro k hk
      rw [List.getElem?_take_of_lt (by omega)]
    · rintro u ⟨v, rfl⟩
      have hlen : e.position < t.length := (List.getElem?_eq_some_iff.mp hu.1).1
      have hagree : ∀ k ≤ e.position, (t.take (e.position + 1) ++ v)[k]? = t[k]? := by
        intro k hk
        have hk' : k < (t.take (e.position + 1)).length := by
          rw [List.length_take]
          omega
        rw [List.getElem?_append_left hk', List.getElem?_take_of_lt (by omega)]
      refine tokens_eq_error_iff.mpr ⟨hu.of_agree hagree, ?_⟩
      intro j hj huj
      refine hleast j hj (huj.of_agree ?_)
      intro k hk
      rw [hagree k (by omega)]

/-- The second of two closing braces behind one blank, and another beginning that goes on in its own
way. -/
theorem malformed_at_first_unopened_twice :
    tokens ['{', 'a', '}', 'b', '}', '{', '}', '}'] = .error ⟨4⟩ ∧
      Unopened ['{', 'a', '}', 'b', '}', '{', '}', '}'] 4 ∧
      Unopened ['{', 'a', '}', 'b', '}', '{', '}', '}'] 7 ∧
      WellFormed ['{', 'a', '}', 'b'] ∧
      tokens ['{', 'a', '}', 'b', '}', 'c'] = .error ⟨4⟩ := by
  have h : tokens ['{', 'a', '}', 'b', '}', '{', '}', '}'] = .error ⟨4⟩ := rfl
  obtain ⟨⟨hu, -⟩, hbefore, hprefix⟩ := (malformed_at_first_unopened _).2 ⟨4⟩ h
  exact ⟨h, hu, by decide, hbefore, hprefix _ (by decide)⟩

end StoryBlanks.Template
