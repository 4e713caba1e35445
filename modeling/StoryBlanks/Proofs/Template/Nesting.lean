import StoryBlanks.Proofs.Template.Normal

/-!
# Templates in the blanks of templates

The responses to a template may be templates themselves. Main statement: filling the blanks one
level at a time or all at once is the same, and the blanks of the filled template are those of the
responses in order. It rests on well-formed templates being freely made of their symbols, so that
putting words of symbols into a word of symbols is all there is to filling.
-/
namespace StoryBlanks.Template

def WellFormed (t : Text) : Prop := ∃ ts, tokens t = .ok ts

/-- The symbols written out, with the next response in place of each blank. -/
def weave : List Symbol → List Text → Text
  | [], _ => []
  | .letter c :: xs, rs => c :: weave xs rs
  | .blank _ :: xs, [] => weave xs []
  | .blank _ :: xs, r :: rs => r ++ weave xs rs

def Symbol.writeAs (f : Text → Text) : Symbol → Text
  | letter c => [c]
  | blank l => f l

/-- The symbols with the next word of symbols in place of each blank. -/
def graft : List Symbol → List (List Symbol) → List Symbol
  | [], _ => []
  | .letter c :: xs, yss => .letter c :: graft xs yss
  | .blank _ :: xs, [] => graft xs []
  | .blank _ :: xs, ys :: yss => ys ++ graft xs yss

/-- The literal texts before, between and behind the blanks. -/
def gaps : List Symbol → List Text
  | [] => [[]]
  | .letter c :: xs => (gaps xs).modifyHead (c :: ·)
  | .blank _ :: xs => [] :: gaps xs

/-! ## Templates by their symbols -/

theorem wellFormed_iff {t : Text} :
    WellFormed t ↔ ∃ xs, (∀ x ∈ xs, x.Readable) ∧ write xs = t := by
  constructor
  · rintro ⟨ts, h⟩
    obtain ⟨hn, rfl⟩ := tokens_eq_ok_iff.mp h
    exact ⟨symbols ts, hn.readable, write_symbols ts⟩
  · rintro ⟨xs, hx, rfl⟩
    obtain ⟨ts, hts, -⟩ := tokens_write hx
    exact ⟨ts, hts⟩

theorem labels_write {xs : List Symbol} (hx : ∀ x ∈ xs, x.Readable) :
    labels (write xs) = .ok (blanks xs) := by
  obtain ⟨ts, hts, rfl⟩ := tokens_write hx
  rw [labels, hts, blanks_symbols]
  rfl

theorem exists_symbols_of_labels {t : Text} {ls : List Text} (h : labels t = .ok ls) :
    ∃ xs, (∀ x ∈ xs, x.Readable) ∧ write xs = t ∧ blanks xs = ls := by
  have hw : WellFormed t := by
    cases ht : tokens t with
    | ok ts => exact ⟨ts, ht⟩
    | error e => simp [labels, ht, Except.map] at h
  obtain ⟨xs, hx, rfl⟩ := wellFormed_iff.mp hw
  rw [labels_write hx] at h
  exact ⟨xs, hx, rfl, Except.ok.inj h⟩

/-- Well-formed responses, each by its symbols. -/
theorem exists_symbols_of_wellFormed {r : List Text} (h : ∀ t ∈ r, WellFormed t) :
    ∃ yss : List (List Symbol), (∀ ys ∈ yss, ∀ y ∈ ys, y.Readable) ∧ yss.map write = r := by
  induction r with
  | nil => exact ⟨[], by simp, rfl⟩
  | cons t r ih =>
    obtain ⟨ys, hy, rfl⟩ := wellFormed_iff.mp (h t (by simp))
    obtain ⟨yss, hys, rfl⟩ := ih (fun u hu => h u (by simp [hu]))
    exact ⟨ys :: yss, by simpa using ⟨hy, hys⟩, rfl⟩

/-! ## Filling by symbols -/

theorem weave_letters_append (t : Text) (xs : List Symbol) (rs : List Text) :
    weave (letters t ++ xs) rs = t ++ weave xs rs := by
  induction t with
  | nil => rfl
  | cons c t ih => rw [letters_cons, List.cons_append, weave, ih, List.cons_append]

theorem weave_append {xs : List Symbol} {rs : List Text} (h : rs.length = (blanks xs).length)
    (ys : List Symbol) (ss : List Text) :
    weave (xs ++ ys) (rs ++ ss) = weave xs rs ++ weave ys ss := by
  induction xs generalizing rs with
  | nil => simp [List.length_eq_zero_iff.mp h, weave]
  | cons x xs ih =>
    cases x with
    | letter c => simp [weave, ih h]
    | blank l =>
      cases rs with
      | nil => simp at h
      | cons r rs => simp [weave, ih (Nat.succ.inj h)]

/-- A token list with the right number of responses is put together from its symbols. -/
theorem assemble_eq {ts : List Token} {rs : List Text}
    (h : rs.length = (blanks (symbols ts)).length) :
    assemble ts rs = some (weave (symbols ts) rs) := by
  induction ts generalizing rs with
  | nil => simp [List.length_eq_zero_iff.mp h, assemble, weave]
  | cons x ts ih =>
    cases x with
    | run s e t =>
      have hrest : rs.length = (blanks (symbols ts)).length := by simpa [Token.symbols] using h
      rw [symbols_cons, Token.symbols, weave_letters_append, assemble, ih hrest]
      rfl
    | blank s e l =>
      cases rs with
      | nil => simp [Token.symbols] at h
      | cons r rs =>
        have hrest : rs.length = (blanks (symbols ts)).length := by
          simpa [Token.symbols] using h
        rw [assemble, ih hrest]
        rfl

/-- Filling a template that is written from symbols is weaving the symbols. -/
theorem fill_write {xs : List Symbol} (hx : ∀ x ∈ xs, x.Readable) {rs : List Text}
    (h : rs.length = (blanks xs).length) : fill (write xs) rs = .ok (weave xs rs) := by
  obtain ⟨ts, hts, rfl⟩ := tokens_write hx
  simp only [fill, hts, assemble_eq h]

/-- The right number of responses always fits. -/
theorem exists_fill {t : Text} {ls rs : List Text} (h : labels t = .ok ls)
    (hlen : rs.length = ls.length) : ∃ s, fill t rs = .ok s := by
  obtain ⟨xs, hx, rfl, rfl⟩ := exists_symbols_of_labels h
  exact ⟨weave xs rs, fill_write hx hlen⟩

/-- Responses that are chosen by the labels. -/
theorem weave_map (f : Text → Text) (xs : List Symbol) :
    weave xs ((blanks xs).map f) = xs.flatMap (Symbol.writeAs f) := by
  induction xs with
  | nil => rfl
  | cons x xs ih => cases x <;> simp [weave, Symbol.writeAs, ih]

/-- Labels in braces put every blank back. -/
theorem weave_blanks (xs : List Symbol) :
    weave xs ((blanks xs).map fun l => '{' :: (l ++ ['}'])) = write xs := by
  rw [weave_map]
  refine List.flatMap_congr fun x _ => ?_
  cases x <;> rfl

theorem length_gaps (xs : List Symbol) : (gaps xs).length = (blanks xs).length + 1 := by
  induction xs with
  | nil => rfl
  | cons x xs ih => cases x <;> simp [gaps, ih]

/-- Responses stand between the gaps as they are, whatever braces they have. -/
theorem weave_eq_gaps {xs : List Symbol} {rs : List Text} (h : rs.length = (blanks xs).length) :
    weave xs rs = (List.zipWith (· ++ ·) (gaps xs) (rs ++ [[]])).flatten := by
  induction xs generalizing rs with
  | nil => simp [List.length_eq_zero_iff.mp h, weave, gaps]
  | cons x xs ih =>
    cases x with
    | letter c =>
      rw [weave, ih h, gaps]
      have hlen := length_gaps xs
      cases hg : gaps xs with
      | nil => simp [hg] at hlen
      | cons g gs => cases rs <;> simp
    | blank l =>
      cases rs with
      | nil => simp at h
      | cons r rs => simp [weave, gaps, ih (Nat.succ.inj h)]

/-! ## Words of symbols in the blanks -/

/-- What is grafted stays readable, so that the template can be cut up once more. -/
theorem readable_graft {xs : List Symbol} {yss : List (List Symbol)} (hx : ∀ x ∈ xs, x.Readable)
    (hy : ∀ ys ∈ yss, ∀ y ∈ ys, y.Readable) : ∀ z ∈ graft xs yss, z.Readable := by
  induction xs generalizing yss with
  | nil => simp [graft]
  | cons x xs ih =>
    have hxs : ∀ x ∈ xs, x.Readable := fun y hy => hx y (by simp [hy])
    cases x with
    | letter c =>
      intro z hz
      rcases List.mem_cons.mp hz with rfl | hz
      · exact hx (.letter c) (by simp)
      · exact ih hxs hy z hz
    | blank l =>
      cases yss with
      | nil => exact ih hxs hy
      | cons ys yss =>
        intro z hz
        rcases List.mem_append.mp hz with hz | hz
        · exact hy ys (by simp) z hz
        · exact ih hxs (fun us hu => hy us (by simp [hu])) z hz

/-- Grafting and then writing is writing and then weaving. -/
theorem write_graft (xs : List Symbol) (yss : List (List Symbol)) :
    write (graft xs yss) = weave xs (yss.map write) := by
  induction xs generalizing yss with
  | nil => rfl
  | cons x xs ih =>
    cases x with
    | letter c => simp [graft, weave, Symbol.write, ih]
    | blank l => cases yss <;> simp [graft, weave, ih]

theorem blanks_graft {xs : List Symbol} {yss : List (List Symbol)}
    (h : yss.length = (blanks xs).length) : blanks (graft xs yss) = (yss.map blanks).flatten := by
  induction xs generalizing yss with
  | nil => simp [List.length_eq_zero_iff.mp h, graft]
  | cons x xs ih =>
    cases x with
    | letter c => simp [graft, ih h]
    | blank l =>
      cases yss with
      | nil => simp at h
      | cons ys yss => simp [graft, ih (Nat.succ.inj h)]

/-- One level at a time or all at once: by induction on the outer symbols, with the responses to
each grafted word split off the front. -/
theorem weave_graft {xs : List Symbol} {yss : List (List Symbol)} {s : List (List Text)}
    (h : yss.length = (blanks xs).length)
    (hs : s.map List.length = yss.map fun ys => (blanks ys).length) :
    weave (graft xs yss) s.flatten = weave xs (List.zipWith weave yss s) := by
  induction xs generalizing yss s with
  | nil => rfl
  | cons x xs ih =>
    cases x with
    | letter c => simp [graft, weave, ih h hs]
    | blank l =>
      cases yss with
      | nil => simp at h
      | cons ys yss =>
        cases s with
        | nil => simp at hs
        | cons ss s =>
          simp only [List.map_cons, List.cons.injEq] at hs
          rw [graft, List.flatten_cons, weave_append hs.1, ih (Nat.succ.inj h) hs.2]
          rfl

theorem zipWith_fill_write {yss : List (List Symbol)} {s : List (List Text)}
    (hy : ∀ ys ∈ yss, ∀ y ∈ ys, y.Readable)
    (hs : s.map List.length = yss.map fun ys => (blanks ys).length) :
    List.zipWith fill (yss.map write) s = (List.zipWith weave yss s).map .ok := by
  induction yss generalizing s with
  | nil => simp
  | cons ys yss ih =>
    cases s with
    | nil => simp
    | cons ss s =>
      simp only [List.map_cons, List.cons.injEq] at hs
      have hrest := ih (fun us hu => hy us (by simp [hu])) hs.2
      simp [fill_write (hy ys (by simp)) hs.1, hrest]

/-! ## Nested templates -/

/-- Filling the grafted template is filling the outer one with what was filled into the inner
ones. -/
theorem fill_graft {xs : List Symbol} {yss : List (List Symbol)} {s : List (List Text)}
    (hx : ∀ x ∈ xs, x.Readable) (hy : ∀ ys ∈ yss, ∀ y ∈ ys, y.Readable)
    (h : yss.length = (blanks xs).length)
    (hs : s.map List.length = yss.map fun ys => (blanks ys).length) :
    ∃ g, fill (write xs) (List.zipWith weave yss s) = .ok g ∧
      fill (write (graft xs yss)) s.flatten = .ok g := by
  have hsame : s.length = yss.length := by simpa using congrArg List.length hs
  have hpieces : (List.zipWith weave yss s).length = (blanks xs).length := by simp [hsame, h]
  have hcount : s.flatten.length = (blanks (graft xs yss)).length := by
    rw [blanks_graft h, List.length_flatten, List.length_flatten, hs, List.map_map]
    rfl
  refine ⟨weave xs (List.zipWith weave yss s), fill_write hx hpieces, ?_⟩
  rw [fill_write (readable_graft hx hy) hcount, weave_graft h hs]

theorem readable_letters {t : Text} (h : '}' ∉ t) : ∀ y ∈ letters t, y.Readable := by
  intro y hy
  obtain ⟨c, hc, rfl⟩ := List.mem_map.mp hy
  intro he
  exact h (he ▸ hc)

/-- Filling a well-formed template: with well-formed templates it gives a template that asks for
what they ask for, and filling that one is filling them first; with its own blanks it changes
nothing; with texts that close no brace it leaves no blank; and any responses at all are copied as
they are, between texts that depend on the template alone. -/
theorem fill_nested {t : Text} {ls : List Text} (ht : labels t = .ok ls) :
    (∀ r : List Text, r.length = ls.length → (∀ x ∈ r, WellFormed x) →
      ∃ (f : Text) (lss : List (List Text)),
        fill t r = .ok f ∧ WellFormed f ∧
        r.map labels = lss.map .ok ∧ labels f = .ok lss.flatten ∧
        ∀ s : List (List Text), s.map List.length = lss.map List.length →
          ∃ (gs : List Text) (g : Text), List.zipWith fill r s = gs.map .ok ∧
            fill t gs = .ok g ∧ fill f s.flatten = .ok g) ∧
      fill t (ls.map fun l => '{' :: (l ++ ['}'])) = .ok t ∧
      (∀ r : List Text, r.length = ls.length → (∀ x ∈ r, '}' ∉ x) →
        ∃ f, fill t r = .ok f ∧ labels f = .ok []) ∧
      ∃ between : List Text, between.length = ls.length + 1 ∧
        ∀ r : List Text, r.length = ls.length →
          fill t r = .ok (List.zipWith (· ++ ·) between (r ++ [[]])).flatten := by
  obtain ⟨xs, hx, rfl, rfl⟩ := exists_symbols_of_labels ht
  refine ⟨?_, ?_, ?_, ?_⟩
  · intro r hlen hr
    obtain ⟨yss, hy, rfl⟩ := exists_symbols_of_wellFormed hr
    rw [List.length_map] at hlen
    have hz := readable_graft hx hy
    refine ⟨write (graft xs yss), yss.map blanks, ?_, wellFormed_iff.mpr ⟨_, hz, rfl⟩, ?_, ?_, ?_⟩
    · rw [write_graft]
      exact fill_write hx (by simpa using hlen)
    · rw [List.map_map, List.map_map]
      exact List.map_congr_left fun ys hys => labels_write (hy ys hys)
    · rw [labels_write hz, blanks_graft hlen]
    · intro s hs
      rw [List.map_map] at hs
      obtain ⟨g, hg, hfill⟩ := fill_graft hx hy hlen hs
      exact ⟨List.zipWith weave yss s, g, zipWith_fill_write hy hs, hg, hfill⟩
  · rw [fill_write hx (by simp), weave_blanks]
  · intro r hlen hr
    have hy : ∀ ys ∈ r.map letters, ∀ y ∈ ys, y.Readable := by
      intro ys hys
      obtain ⟨x, hxr, rfl⟩ := List.mem_map.mp hys
      exact readable_letters (hr x hxr)
    have hf : write (graft xs (r.map letters)) = weave xs r := by
      rw [write_graft, List.map_map]
      congr 1
      simp [Function.comp_def]
    refine ⟨weave xs r, fill_write hx hlen, ?_⟩
    rw [← hf, labels_write (readable_graft hx hy), blanks_graft (by simpa using hlen)]
    simp [Function.comp_def]
  · exact ⟨gaps xs, length_gaps xs, fun r hlen => by rw [fill_write hx hlen, weave_eq_gaps hlen]⟩

/-- Braces left open on either side of the response, and a response that closes one. -/
theorem fill_nested_stray :
    labels ['x', '{', '{', 'a', '}', '{', 'b'] = .ok [['a']] ∧ WellFormed ['{', 'c', '}', '{'] ∧
      ∃ g, fill ['x', '{', '{', 'a', '}', '{', 'b'] [['}', '{']] = .ok g ∧
        fill ['x', '{', '{', 'c', '}', '{', '{', 'b'] [['}']] = .ok g := by
  have ht : labels ['x', '{', '{', 'a', '}', '{', 'b'] = .ok [['a']] := rfl
  have hr : WellFormed ['{', 'c', '}', '{'] := ⟨_, rfl⟩
  have hinj : Function.Injective (List.map (Except.ok : List Text → Except Unmatched (List Text))) :=
    List.map_injective_iff.mpr fun _ _ => Except.ok.inj
  have hinj' : Function.Injective (List.map (Except.ok : Text → Except FillError Text)) :=
    List.map_injective_iff.mpr fun _ _ => Except.ok.inj
  obtain ⟨f, lss, hf, -, hl, -, hs⟩ :=
    (fill_nested ht).1 [['{', 'c', '}', '{']] rfl (by simpa using hr)
  obtain rfl : ['x', '{', '{', 'c', '}', '{', '{', 'b'] = f := Except.ok.inj hf
  obtain rfl : [[['c']]] = lss := hinj hl
  obtain ⟨gs, g, hgs, hg, hfill⟩ := hs [[['}']]] rfl
  obtain rfl : [['}', '{']] = gs := hinj' hgs
  exact ⟨ht, hr, g, hg, hfill⟩

end StoryBlanks.Template
