import StoryBlanks.Proofs.Template.Symbols

/-!
# Normal token lists

A token list is normal when its tokens follow one another without a gap, each as long as it is
written, with letters gathered into runs as far as they go. Main statement: the token list of a
template is the one normal list that is written like the template; so cutting a template up and
writing a normal list out undo each other.
-/
namespace StoryBlanks.Template

/-- The tokens follow one another from a position on. A run is not empty, has no closing brace and
is not followed by a run; a label has no brace. -/
inductive NormalFrom : Nat → List Token → Prop where
  | nil (k : Nat) : NormalFrom k []
  | run {k : Nat} {x : Text} {ts : List Token} (nonempty : x ≠ []) (noClose : '}' ∉ x)
      (apart : ∀ y ∈ ts.head?, y.label?.isSome) (rest : NormalFrom (k + x.length) ts) :
      NormalFrom k (.run k (k + x.length) x :: ts)
  | blank {k : Nat} {l : Text} {ts : List Token} (noOpen : '{' ∉ l) (noClose : '}' ∉ l)
      (rest : NormalFrom (k + l.length + 2) ts) :
      NormalFrom k (.blank k (k + l.length + 2) l :: ts)

/-- The text of a run, or the label of a blank, is what the template holds at its positions. -/
def Token.StandsIn (t : Text) : Token → Prop
  | .run s e x => x = (t.drop s).take (e - s)
  | .blank s e l => l = (t.drop (s + 1)).take (e - 1 - (s + 1))

/-! ## What a normal list says of its tokens -/

theorem NormalFrom.readable {k : Nat} {ts : List Token} (h : NormalFrom k ts) :
    ∀ x ∈ symbols ts, x.Readable := by
  induction h with
  | nil k => simp
  | @run k t ts _ noClose _ _ ih =>
    intro x hx
    simp only [symbols_cons, Token.symbols, letters, List.mem_append, List.mem_map] at hx
    rcases hx with ⟨c, hc, rfl⟩ | hx
    · intro he
      exact noClose (he ▸ hc)
    · exact ih x hx
  | @blank k l ts noOpen noClose _ ih =>
    intro x hx
    simp only [symbols_cons, Token.symbols, List.singleton_append, List.mem_cons] at hx
    rcases hx with rfl | hx
    · exact ⟨noOpen, noClose⟩
    · exact ih x hx

/-- The last token ends where the written list does. -/
theorem NormalFrom.stop_last {k : Nat} {ts : List Token} (h : NormalFrom k ts) :
    ∀ x ∈ ts.getLast?, x.stop = k + (render ts).length := by
  induction h with
  | nil k => simp
  | @run k t ts _ _ _ _ ih =>
    cases ts with
    | nil => simp [Token.stop, Token.render]
    | cons y ts =>
      intro x hx
      rw [List.getLast?_cons_cons] at hx
      rw [ih x hx, render_cons (.run _ _ _), List.length_append, Token.render]
      omega
  | @blank k l ts _ _ _ ih =>
    cases ts with
    | nil => simp [Token.stop, Token.render]; omega
    | cons y ts =>
      intro x hx
      rw [List.getLast?_cons_cons] at hx
      rw [ih x hx, render_cons (.blank _ _ _), List.length_append]
      simp only [Token.render, List.length_cons, List.length_append, List.length_nil]
      omega

/-- Every token stands where its positions say, in any text that begins with as many characters
as the first position. -/
theorem NormalFrom.standsIn {k : Nat} {ts : List Token} (h : NormalFrom k ts) {pre : Text}
    (hpre : pre.length = k) : ∀ x ∈ ts, x.StandsIn (pre ++ render ts) := by
  induction h generalizing pre with
  | nil k => simp
  | @run k t ts _ _ _ _ ih =>
    intro x hx
    rcases List.mem_cons.mp hx with rfl | hx
    · subst hpre
      simp [Token.StandsIn, Token.render]
    · have hlen : (pre ++ t).length = k + t.length := by simp [hpre]
      simpa [Token.render, List.append_assoc] using ih hlen x hx
  | @blank k l ts _ _ _ ih =>
    intro x hx
    rcases List.mem_cons.mp hx with rfl | hx
    · subst hpre
      have hdrop : (pre ++ '{' :: (l ++ '}' :: render ts)).drop (pre.length + 1) =
          l ++ '}' :: render ts := by
        rw [List.drop_append]
        simp
      simp [Token.StandsIn, Token.render, hdrop]
    · have hlen : (pre ++ '{' :: (l ++ ['}'])).length = k + l.length + 2 := by simp [hpre]; omega
      simpa [Token.render, List.append_assoc] using ih hlen x hx

/-! ## A normal list is told by its symbols -/

theorem head_symbols_ne_letter {ts : List Token} (h : ∀ y ∈ ts.head?, y.label?.isSome) (c : Char) :
    (symbols ts).head? ≠ some (.letter c) := by
  cases ts with
  | nil => simp
  | cons y ts =>
    cases y with
    | run s e t => simp [Token.label?] at h
    | blank s e l => simp [Token.symbols]

/-- Where letters end is no matter of choice if no letter follows. -/
theorem letters_append_inj {t u : Text} {xs ys : List Symbol}
    (hx : ∀ c, xs.head? ≠ some (.letter c)) (hy : ∀ c, ys.head? ≠ some (.letter c))
    (h : letters t ++ xs = letters u ++ ys) : t = u ∧ xs = ys := by
  induction t generalizing u with
  | nil =>
    cases u with
    | nil => exact ⟨rfl, h⟩
    | cons c u => exact absurd (by simpa using congrArg List.head? h) (hx c)
  | cons c t ih =>
    cases u with
    | nil => exact absurd (by simpa using (congrArg List.head? h).symm) (hy c)
    | cons d u =>
      simp only [letters_cons, List.cons_append, List.cons.injEq, Symbol.letter.injEq] at h
      obtain ⟨rfl, h⟩ := h
      obtain ⟨rfl, hxs⟩ := ih h
      exact ⟨rfl, hxs⟩

theorem letters_append_ne_blank {t : Text} (ht : t ≠ []) {l : Text} {xs ys : List Symbol} :
    letters t ++ xs ≠ .blank l :: ys := by
  cases t with
  | nil => exact absurd rfl ht
  | cons c t => simp

/-- Tokens that follow one another are known from what they stand for: positions add up, and
neighbouring letters are always one run. -/
theorem NormalFrom.eq_of_symbols {k : Nat} {ts us : List Token} (ht : NormalFrom k ts)
    (hu : NormalFrom k us) (h : symbols ts = symbols us) : ts = us := by
  induction ht generalizing us with
  | nil k =>
    cases hu with
    | nil => rfl
    | run nonempty => simp [Token.symbols, letters, nonempty] at h
    | blank => simp [Token.symbols] at h
  | @run k t ts nonempty _ apart _ ih =>
    cases hu with
    | nil => simp [Token.symbols, letters, nonempty] at h
    | run _ _ apart' rest' =>
      obtain ⟨rfl, hs⟩ :=
        letters_append_inj (head_symbols_ne_letter apart) (head_symbols_ne_letter apart') h
      rw [ih rest' hs]
    | blank => exact absurd h (letters_append_ne_blank nonempty)
  | @blank k l ts _ _ _ ih =>
    cases hu with
    | nil => simp [Token.symbols] at h
    | run nonempty => exact absurd h.symm (letters_append_ne_blank nonempty)
    | blank _ _ rest' =>
      simp only [symbols_cons, Token.symbols, List.singleton_append, List.cons.injEq,
        Symbol.blank.injEq] at h
      obtain ⟨rfl, hs⟩ := h
      rw [ih rest' hs]

/-! ## The scanner makes normal lists -/

theorem render_flush (k : Nat) (run : Text) : render (flush k run) = run.reverse := by
  rw [← write_symbols, symbols_flush, write_letters]

/-- A run that ends before a blank or at the end of the template. -/
theorem NormalFrom.flush_append {k : Nat} {run : Text} {ts : List Token} (hrun : '}' ∉ run)
    (apart : ∀ y ∈ ts.head?, y.label?.isSome) (h : NormalFrom (k + run.length) ts) :
    NormalFrom k (flush k run ++ ts) := by
  cases run with
  | nil => exact h
  | cons c run =>
    have hne : (c :: run).reverse ≠ [] := by simp
    have hc : '}' ∉ (c :: run).reverse := by rwa [List.mem_reverse]
    rw [← List.length_reverse] at h
    simpa [flush] using NormalFrom.run hne hc apart h

theorem flush_normal (k : Nat) {run : Text} (hrun : '}' ∉ run) : NormalFrom k (flush k run) := by
  have h : NormalFrom k (flush k run ++ []) := .flush_append hrun (by simp) (.nil _)
  simpa using h

/-- By induction on what is still to be read; what is held has no closing brace, and the label of
the open blank no opening one. -/
theorem scan_normal {cs : Text} {start : Nat} {run : Text} {slot : Option Text} {ts : List Token}
    (hheld : '}' ∉ held run slot) (hslot : ∀ l ∈ slot, '{' ∉ l)
    (h : scan start run slot cs = .ok ts) :
    NormalFrom start ts ∧ render ts = (held run slot).reverse ++ cs := by
  induction cs generalizing start run slot ts with
  | nil =>
    rw [scan_nil] at h
    obtain rfl := Except.ok.inj h
    exact ⟨flush_normal start hheld, by simp [render_flush]⟩
  | cons c cs ih =>
    by_cases ho : c = '{'
    · subst ho
      rw [scan_open] at h
      obtain ⟨hn, hr⟩ := ih (by simpa [held] using hheld) (by simp) h
      exact ⟨hn, by simpa [held] using hr⟩
    by_cases hc : c = '}'
    -- Only here are tokens put out; nothing is held for the rest.
    · subst hc
      cases slot with
      | none => simp [scan] at h
      | some l =>
        simp only [held, List.mem_append, List.mem_cons, not_or] at hheld
        simp only [scan, if_neg ho, if_pos] at h
        cases hrest : scan (start + run.length + l.length + 2) [] none cs with
        | error e => simp [hrest] at h
        | ok rest =>
          obtain ⟨hn, hr⟩ := ih (by simp [held]) (by simp) hrest
          simp only [hrest, Except.ok.injEq] at h
          subst h
          have hb : NormalFrom (start + run.length)
              (.blank (start + run.length) (start + run.length + l.length + 2) l.reverse :: rest) := by
            have hn' : NormalFrom (start + run.length + l.reverse.length + 2) rest := by
              simpa using hn
            simpa using NormalFrom.blank (by simpa using hslot l rfl) (by simpa using hheld.1) hn'
          refine ⟨NormalFrom.flush_append hheld.2.2 (by simp [Token.label?]) hb, ?_⟩
          simp [render_flush, Token.render, hr, held]
    · obtain ⟨run', slot', hpush, hslot', hscan⟩ := scan_plain start run slot ho hc
      have hopen : ∀ l ∈ slot', '{' ∉ l := by
        intro l hl
        obtain ⟨m, hm, rfl⟩ := hslot' l hl
        simp only [List.mem_cons, not_or]
        exact ⟨Ne.symm ho, hslot m hm⟩
      have hclose : '}' ∉ held run' slot' := by
        simp only [hpush, List.mem_cons, not_or]
        exact ⟨Ne.symm hc, hheld⟩
      obtain ⟨hn, hr⟩ := ih hclose hopen (hscan cs ▸ h)
      exact ⟨hn, by simpa [hpush] using hr⟩

/-! ## Cutting up and writing out -/

/-- The tokens of a template are the one normal list that is written like it. -/
theorem tokens_eq_ok_iff {t : Text} {ts : List Token} :
    tokens t = .ok ts ↔ NormalFrom 0 ts ∧ render ts = t := by
  constructor
  · intro h
    simpa [held] using scan_normal (by simp [held]) (by simp) h
  · rintro ⟨hn, rfl⟩
    obtain ⟨us, hus, hsym⟩ := tokens_write hn.readable
    obtain ⟨hu, -⟩ := scan_normal (by simp [held]) (by simp) hus
    rw [write_symbols] at hus
    rw [hus, hu.eq_of_symbols hn hsym]

/-- Cutting a template up gives a normal list that covers it from end to end and is written like
it, and writing a normal list out gives a template that is cut up into that list. -/
theorem tokens_inverse_render :
    (∀ (t : Text) (ts : List Token), tokens t = .ok ts →
      NormalFrom 0 ts ∧ (ts = [] ↔ t = []) ∧ (∀ x ∈ ts.getLast?, x.stop = t.length) ∧
        (∀ x ∈ ts, x.StandsIn t) ∧ render ts = t) ∧
      ∀ ts : List Token, NormalFrom 0 ts → tokens (render ts) = .ok ts := by
  constructor
  · intro t ts h
    obtain ⟨hn, rfl⟩ := tokens_eq_ok_iff.mp h
    refine ⟨hn, ⟨?_, ?_⟩, ?_, ?_, rfl⟩
    · rintro rfl
      rfl
    · intro ht
      simpa [ht, tokens, scan, flush] using h.symm
    · simpa using hn.stop_last
    · have hstands : ∀ x ∈ ts, x.StandsIn ([] ++ render ts) := hn.standsIn rfl
      exact hstands
  · intro ts hn
    exact tokens_eq_ok_iff.mpr ⟨hn, rfl⟩

/-- An opening brace that is given up, a blank and one that is never closed. -/
theorem tokens_inverse_render_stray :
    tokens ['{', 'a', '{', 'b', '}', '{', 'c'] =
        .ok [.run 0 2 ['{', 'a'], .blank 2 5 ['b'], .run 5 7 ['{', 'c']] ∧
      NormalFrom 0 [.run 0 2 ['{', 'a'], .blank 2 5 ['b'], .run 5 7 ['{', 'c']] ∧
      tokens (render [.run 0 2 ['{', 'a'], .blank 2 5 ['b'], .run 5 7 ['{', 'c']]) =
        .ok [.run 0 2 ['{', 'a'], .blank 2 5 ['b'], .run 5 7 ['{', 'c']] := by
  have h : tokens ['{', 'a', '{', 'b', '}', '{', 'c'] =
      .ok [.run 0 2 ['{', 'a'], .blank 2 5 ['b'], .run 5 7 ['{', 'c']] := rfl
  obtain ⟨hn, -⟩ := tokens_inverse_render.1 _ _ h
  exact ⟨h, hn, tokens_inverse_render.2 _ hn⟩

end StoryBlanks.Template
