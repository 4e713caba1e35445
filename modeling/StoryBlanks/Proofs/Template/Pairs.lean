import StoryBlanks.Proofs.Template.Unmatched

/-!
# Innermost pairs of braces

Which stretches of a template are blanks can be told without reading it from the beginning. Main
statement: the blanks of a well-formed template are its innermost pairs of braces, an opening one
and a closing one with no brace between them, from left to right, one for each closing brace; and
an opening brace that is in no such pair stands in a literal run.
-/
namespace StoryBlanks.Template

/-- An opening brace at `i` and a closing one that ends at `j`, with no brace between them. -/
def IsPair (t : Text) (i j : Nat) : Prop :=
  i + 1 < j ∧ t[i]? = some '{' ∧ t[j - 1]? = some '}' ∧ Plain t (i + 1) (j - 1)

instance (t : Text) (i j : Nat) : Decidable (IsPair t i j) :=
  inferInstanceAs
    (Decidable (i + 1 < j ∧ t[i]? = some '{' ∧ t[j - 1]? = some '}' ∧ Plain t (i + 1) (j - 1)))

/-- What stands between a brace at `i` and one that ends at `j`. -/
def inside (t : Text) (i j : Nat) : Text := (t.drop (i + 1)).take (j - 1 - (i + 1))

def Token.span? : Token → Option (Nat × Nat)
  | .run .. => none
  | .blank s e _ => some (s, e)

def spans (ts : List Token) : List (Nat × Nat) := ts.filterMap Token.span?

@[simp] theorem spans_nil : spans [] = [] := rfl
@[simp] theorem spans_run (s e : Nat) (x : Text) (ts : List Token) :
    spans (.run s e x :: ts) = spans ts := rfl
@[simp] theorem spans_blank (s e : Nat) (l : Text) (ts : List Token) :
    spans (.blank s e l :: ts) = (s, e) :: spans ts := rfl

theorem mem_spans {ts : List Token} {i j : Nat} : (i, j) ∈ spans ts ↔ ∃ l, .blank i j l ∈ ts := by
  rw [spans, List.mem_filterMap]
  constructor
  · rintro ⟨x, hx, hspan⟩
    cases x with
    | run s e y => simp [Token.span?] at hspan
    | blank s e l =>
      obtain ⟨rfl, rfl⟩ : s = i ∧ e = j := by simpa [Token.span?] using hspan
      exact ⟨l, hx⟩
  · rintro ⟨l, hl⟩
    exact ⟨_, hl, rfl⟩

/-! ## Pairs as pieces of the text -/

variable {t before after l : Text} {i j k : Nat} {ts : List Token}

theorem drop_eq_cons {c : Char} (h : t[i]? = some c) : t.drop i = c :: t.drop (i + 1) := by
  rw [List.drop_eq_getElem?_toList_append, h]
  rfl

/-- No brace of either kind stands inside a pair. -/
theorem IsPair.not_mem_inside (h : IsPair t i j) : '{' ∉ inside t i j ∧ '}' ∉ inside t i j := by
  obtain ⟨-, -, -, hplain⟩ := h
  have hstands : ∀ c ∈ inside t i j, ∃ k < j - 1, i + 1 ≤ k ∧ t[k]? = some c := by
    intro c hc
    obtain ⟨m, hm⟩ := List.mem_iff_getElem?.mp hc
    have hmlt : m < j - 1 - (i + 1) := by
      have hlen := (List.getElem?_eq_some_iff.mp hm).1
      rw [inside, List.length_take] at hlen
      omega
    rw [inside, List.getElem?_take_of_lt hmlt, List.getElem?_drop] at hm
    exact ⟨i + 1 + m, by omega, by omega, hm⟩
  constructor
  · intro ho
    obtain ⟨k, hk, hle, hbrace⟩ := hstands '{' ho
    exact (hplain k hk hle).1 hbrace
  · intro hc
    obtain ⟨k, hk, hle, hbrace⟩ := hstands '}' hc
    exact (hplain k hk hle).2 hbrace

theorem IsPair.length_inside (h : IsPair t i j) : i + (inside t i j).length + 2 = j := by
  obtain ⟨hlt, -, hclose, -⟩ := h
  have hj : j - 1 < t.length := (List.getElem?_eq_some_iff.mp hclose).1
  rw [inside, List.length_take, List.length_drop]
  omega

/-- A pair cuts the text into what stands before, in and behind it. -/
theorem IsPair.eq_append (h : IsPair t i j) :
    t = t.take i ++ '{' :: (inside t i j ++ '}' :: t.drop j) := by
  obtain ⟨hlt, hopen, hclose, -⟩ := h
  have hin : t.drop (i + 1) = inside t i j ++ t.drop (j - 1) := by
    have hj : j - 1 = i + 1 + (j - 1 - (i + 1)) := by omega
    have hdrop : t.drop (j - 1) = (t.drop (i + 1)).drop (j - 1 - (i + 1)) := by
      rw [List.drop_drop, ← hj]
    rw [hdrop, inside, List.take_append_drop]
  have hbehind : t.drop (j - 1) = '}' :: t.drop j := by
    rw [drop_eq_cons hclose, Nat.sub_add_cancel (by omega)]
  calc
    t = t.take i ++ t.drop i := (List.take_append_drop i t).symm
    _ = t.take i ++ '{' :: (inside t i j ++ '}' :: t.drop j) := by
      rw [drop_eq_cons hopen, hin, hbehind]

theorem inside_append (before l after : Text) :
    inside (before ++ '{' :: (l ++ '}' :: after)) before.length (before.length + l.length + 2) =
      l := by
  have hdrop : (before ++ '{' :: (l ++ '}' :: after)).drop (before.length + 1) =
      l ++ '}' :: after := by
    rw [List.drop_append]
    simp
  have hlen : before.length + l.length + 2 - 1 - (before.length + 1) = l.length := by omega
  rw [inside, hdrop, hlen, List.take_left]

theorem isPair_append (before after : Text) (ho : '{' ∉ l) (hc : '}' ∉ l) :
    IsPair (before ++ '{' :: (l ++ '}' :: after)) before.length (before.length + l.length + 2) := by
  have hat : ∀ m, (before ++ '{' :: (l ++ '}' :: after))[before.length + 1 + m]? =
      (l ++ '}' :: after)[m]? := by
    intro m
    rw [List.getElem?_append_right (by omega)]
    have hm : before.length + 1 + m - before.length = m + 1 := by omega
    rw [hm, List.getElem?_cons_succ]
  refine ⟨by omega, by simp, ?_, ?_⟩
  · have hlast : before.length + l.length + 2 - 1 = before.length + 1 + l.length := by omega
    rw [hlast, hat]
    simp
  · intro k hk hle
    obtain ⟨m, rfl⟩ := Nat.exists_eq_add_of_le hle
    rw [hat, List.getElem?_append_left (by omega)]
    exact ⟨fun h => ho (List.mem_of_getElem? h), fun h => hc (List.mem_of_getElem? h)⟩

/-! ## Normal lists by their positions -/

/-- What the first token of a normal list covers, and where the others begin. -/
theorem NormalFrom.uncons {x : Token} (h : NormalFrom k (x :: ts)) :
    x.start = k ∧ x.stop = k + x.render.length ∧ NormalFrom x.stop ts := by
  cases h with
  | run _ _ _ rest => exact ⟨rfl, rfl, rest⟩
  | blank _ _ rest =>
    refine ⟨rfl, ?_, rest⟩
    simp only [Token.stop, Token.render, List.length_cons, List.length_append, List.length_nil]
    omega

theorem NormalFrom.le_start (h : NormalFrom k ts) : ∀ x ∈ ts, k ≤ x.start := by
  induction ts generalizing k with
  | nil => simp
  | cons y ts ih =>
    obtain ⟨hstart, hstop, hrest⟩ := h.uncons
    intro x hx
    rcases List.mem_cons.mp hx with rfl | hx
    · omega
    · have hle := ih hrest x hx
      omega

/-- No token begins before the ones in front of it have ended. -/
theorem NormalFrom.ordered (h : NormalFrom k ts) : ts.Pairwise fun x y => x.stop ≤ y.start := by
  induction ts generalizing k with
  | nil => exact .nil
  | cons y ts ih =>
    obtain ⟨-, -, hrest⟩ := h.uncons
    exact .cons hrest.le_start (ih hrest)

/-- Every character stands in a token, at the place that the token's positions say. -/
theorem NormalFrom.covers (h : NormalFrom k ts) (hi : i < (render ts).length) :
    ∃ x ∈ ts, x.start ≤ k + i ∧ x.render[k + i - x.start]? = (render ts)[i]? := by
  induction ts generalizing k i with
  | nil => simp at hi
  | cons y ts ih =>
    obtain ⟨hstart, hstop, hrest⟩ := h.uncons
    by_cases hy : i < y.render.length
    · refine ⟨y, by simp, by omega, ?_⟩
      have hplace : k + i - y.start = i := by omega
      rw [hplace, render_cons, List.getElem?_append_left hy]
    · rw [render_cons, List.length_append] at hi
      obtain ⟨x, hx, hle, hget⟩ := ih hrest (i := i - y.render.length) (by omega)
      have hplace : y.stop + (i - y.render.length) = k + i := by omega
      rw [hplace] at hle hget
      refine ⟨x, by simp [hx], hle, ?_⟩
      rw [hget, render_cons, List.getElem?_append_right (by omega)]

/-! ## Blanks are pairs -/

/-- A blank among the tokens stands in the text at its positions, with no brace in its label. -/
theorem NormalFrom.eq_of_blank_mem {s e : Nat} (h : NormalFrom k ts) (hl : .blank s e l ∈ ts) :
    ∃ before after, render ts = before ++ '{' :: (l ++ '}' :: after) ∧ '{' ∉ l ∧ '}' ∉ l ∧
      s = k + before.length ∧ e = s + l.length + 2 := by
  induction h with
  | nil => simp at hl
  | @run k x ts _ _ _ _ ih =>
    have hmem : .blank s e l ∈ ts := by simpa using hl
    obtain ⟨before, after, hr, ho, hc, hs, he⟩ := ih hmem
    refine ⟨x ++ before, after, ?_, ho, hc, ?_, he⟩
    · simp [Token.render, hr]
    · rw [List.length_append]
      omega
  | @blank k m ts ho hc _ ih =>
    rcases List.mem_cons.mp hl with heq | hmem
    · obtain ⟨rfl, rfl, rfl⟩ := Token.blank.inj heq
      exact ⟨[], render ts, by simp [Token.render], ho, hc, rfl, rfl⟩
    · obtain ⟨before, after, hr, ho', hc', hs, he⟩ := ih hmem
      refine ⟨'{' :: (m ++ '}' :: before), after, ?_, ho', hc', ?_, he⟩
      · simp [Token.render, hr]
      · simp only [List.length_cons, List.length_append]
        omega

/-- A character that is not in the first piece is in the second. -/
theorem exists_of_append_cons {z r b s : Text} {c : Char} (hz : c ∉ z) (h : z ++ r = b ++ c :: s) :
    ∃ d, b = z ++ d ∧ r = d ++ c :: s := by
  rcases List.append_eq_append_iff.mp h with ⟨d, hb, hr⟩ | ⟨d, hz', hs⟩
  · exact ⟨d, hb, hr⟩
  · cases d with
    | nil => exact ⟨[], by simpa using hz'.symm, by simpa using hs.symm⟩
    | cons c' d =>
      obtain ⟨rfl, -⟩ := List.cons.inj hs
      exact absurd (by simp [hz']) hz

/-- A pair does not begin in a run: the next opening brace comes before any closing one. -/
theorem exists_of_run_append {x r b s : Text} (hx : '}' ∉ x) (hr : ∀ c ∈ r.head?, c = '{')
    (ho : '{' ∉ l) (h : x ++ r = b ++ '{' :: (l ++ '}' :: s)) :
    ∃ d, b = x ++ d ∧ r = d ++ '{' :: (l ++ '}' :: s) := by
  rcases List.append_eq_append_iff.mp h with ⟨d, hb, hd⟩ | ⟨d, rfl, hd⟩
  · exact ⟨d, hb, hd⟩
  · cases d with
    | nil => exact ⟨[], by simp, by simpa using hd.symm⟩
    | cons c d =>
      obtain ⟨-, hrest⟩ := List.cons.inj hd
      have hd' : '}' ∉ d := fun hm => hx (by simp [hm])
      obtain ⟨m, rfl, hm⟩ := exists_of_append_cons hd' hrest.symm
      cases m with
      | nil => exact absurd (hr '}' (by simp [hm])) (by decide)
      | cons c m =>
        obtain rfl := hr c (by simp [hm])
        exact absurd (by simp) ho

theorem NormalFrom.blank_mem_of_eq (h : NormalFrom k ts) (ho : '{' ∉ l) (hc : '}' ∉ l)
    (hr : render ts = before ++ '{' :: (l ++ '}' :: after)) :
    .blank (k + before.length) (k + before.length + l.length + 2) l ∈ ts := by
  induction h generalizing before with
  | nil => simp at hr
  | @run k x ts _ noClose apart _ ih =>
    have hhead : ∀ c ∈ (render ts).head?, c = '{' := by
      cases ts with
      | nil => simp
      | cons y ts =>
        cases y with
        | run s e z => simp [Token.label?] at apart
        | blank s e m => simp [Token.render]
    obtain ⟨d, rfl, hd⟩ := exists_of_run_append noClose hhead ho hr
    have hmem := ih hd
    rw [List.length_append, ← Nat.add_assoc]
    exact List.mem_cons_of_mem _ hmem
  | @blank k m ts noOpen noClose _ ih =>
    have hr' : '{' :: (m ++ '}' :: render ts) = before ++ '{' :: (l ++ '}' :: after) := by
      simpa [Token.render] using hr
    cases before with
    | nil =>
      -- Both labels go on to the first closing brace.
      obtain ⟨-, heq⟩ := List.cons.inj hr'
      obtain ⟨d, rfl, hd⟩ := exists_of_append_cons noClose heq
      have hnil : d = [] := by
        cases d with
        | nil => rfl
        | cons c d =>
          obtain ⟨rfl, -⟩ := List.cons.inj hd
          exact absurd (by simp) hc
      simp [hnil]
    | cons b before =>
      have hb : m ++ ['}'] ++ render ts = before ++ '{' :: (l ++ '}' :: after) := by
        simpa using (List.cons.inj hr').2
      obtain ⟨d, rfl, hd⟩ := exists_of_append_cons (by simp [noOpen]) hb
      have hmem := ih hd
      have hplace : k + (b :: (m ++ ['}'] ++ d)).length = k + m.length + 2 + d.length := by
        simp only [List.length_cons, List.length_append, List.length_nil]
        omega
      rw [hplace]
      exact List.mem_cons_of_mem _ hmem

/-- The blanks of a template are its pairs. -/
theorem blank_mem_iff (h : tokens t = .ok ts) :
    .blank i j l ∈ ts ↔ IsPair t i j ∧ l = inside t i j := by
  obtain ⟨hn, rfl⟩ := tokens_eq_ok_iff.mp h
  constructor
  · intro hl
    obtain ⟨before, after, hr, ho, hc, rfl, rfl⟩ := hn.eq_of_blank_mem hl
    rw [hr, Nat.zero_add]
    exact ⟨isPair_append before after ho hc, (inside_append before l after).symm⟩
  · rintro ⟨hp, rfl⟩
    obtain ⟨ho, hc⟩ := hp.not_mem_inside
    have hi : ((render ts).take i).length = i := by
      have hlt := (List.getElem?_eq_some_iff.mp hp.2.1).1
      rw [List.length_take]
      omega
    have hmem := hn.blank_mem_of_eq ho hc hp.eq_append
    rw [hi, Nat.zero_add, hp.length_inside] at hmem
    exact hmem

/-! ## The labels -/

theorem NormalFrom.length_spans (h : NormalFrom k ts) :
    (spans ts).length = (render ts).count '}' := by
  induction h with
  | nil => rfl
  | run _ noClose _ _ ih =>
    rw [spans_run, ih, render_cons, List.count_append, Token.render,
      List.count_eq_zero.mpr noClose, Nat.zero_add]
  | blank _ noClose _ ih =>
    rw [spans_blank, List.length_cons, ih, render_cons, List.count_append, Token.render]
    simp [List.count_eq_zero.mpr noClose, Nat.add_comm]

/-- The labels are what stands between the braces. -/
theorem labels_eq_inside (h : tokens t = .ok ts) :
    labels t = .ok ((spans ts).map fun p => inside t p.1 p.2) := by
  obtain ⟨hn, rfl⟩ := tokens_eq_ok_iff.mp h
  have hstands : ∀ x ∈ ts, x.StandsIn ([] ++ render ts) := hn.standsIn rfl
  have hlabel : ts.filterMap Token.label? =
      ts.filterMap fun x => x.span?.map fun p => inside (render ts) p.1 p.2 := by
    apply List.filterMap_congr
    intro x hx
    cases x with
    | run s e y => rfl
    | blank s e m => exact congrArg some (hstands _ hx)
  rw [labels, h]
  simp [Except.map, spans, List.map_filterMap, hlabel]

theorem NormalFrom.spans_ordered (h : NormalFrom k ts) :
    (spans ts).Pairwise fun p q => p.2 ≤ q.1 := by
  refine h.ordered.filterMap _ ?_
  intro x y hxy p hp q hq
  cases x with
  | run s e z => simp [Token.span?] at hp
  | blank s e m =>
    cases y with
    | run s' e' z => simp [Token.span?] at hq
    | blank s' e' m' =>
      obtain rfl : (s, e) = p := by simpa [Token.span?] using hp
      obtain rfl : (s', e') = q := by simpa [Token.span?] using hq
      exact hxy

/-- An opening brace that no pair begins with is a literal character. -/
theorem exists_run_of_not_isPair (h : tokens t = .ok ts) (hi : t[i]? = some '{')
    (hnone : ∀ j, ¬ IsPair t i j) : ∃ s e x, .run s e x ∈ ts ∧ s ≤ i ∧ x[i - s]? = some '{' := by
  obtain ⟨hn, hr⟩ := tokens_eq_ok_iff.mp h
  have hlt : i < (render ts).length := by
    rw [hr]
    exact (List.getElem?_eq_some_iff.mp hi).1
  obtain ⟨x, hx, hle, hget⟩ := hn.covers hlt
  rw [Nat.zero_add] at hle hget
  rw [hr, hi] at hget
  cases x with
  | run s e y => exact ⟨s, e, y, hx, hle, hget⟩
  | blank s e l =>
    obtain ⟨-, -, -, ho, -⟩ := hn.eq_of_blank_mem hx
    have hpair := (blank_mem_iff h).mp hx
    -- The only opening brace of a blank is its first character.
    cases hp : i - s with
    | zero =>
      have hs : s = i := by
        simp only [Token.start] at hle
        omega
      exact absurd (hs ▸ hpair.1) (hnone e)
    | succ m =>
      simp only [Token.start, Token.render, hp, List.getElem?_cons_succ] at hget
      have hmem : '{' ∈ l ++ ['}'] := List.mem_of_getElem? hget
      exact absurd hmem (by simp [ho])

/-- The blanks of a well-formed template are its innermost pairs of braces, with what stands inside
them; the labels are what stands in the pairs, from left to right, as many as there are closing
braces; and an opening brace of no pair stands in a run. -/
theorem blanks_are_pairs (h : tokens t = .ok ts) :
    (∀ i j l, .blank i j l ∈ ts ↔ IsPair t i j ∧ l = inside t i j) ∧
      (∃ ps : List (Nat × Nat), (∀ i j, (i, j) ∈ ps ↔ IsPair t i j) ∧
        ps.Pairwise (fun p q => p.2 ≤ q.1) ∧
        labels t = .ok (ps.map fun p => inside t p.1 p.2) ∧ ps.length = t.count '}') ∧
      ∀ i, t[i]? = some '{' → (∀ j, ¬ IsPair t i j) →
        ∃ s e x, .run s e x ∈ ts ∧ s ≤ i ∧ x[i - s]? = some '{' := by
  obtain ⟨hn, hr⟩ := tokens_eq_ok_iff.mp h
  refine ⟨fun i j l => blank_mem_iff h, ⟨spans ts, ?_, hn.spans_ordered, labels_eq_inside h, ?_⟩,
    fun i hi hnone => exists_run_of_not_isPair h hi hnone⟩
  · intro i j
    simp [mem_spans, blank_mem_iff h]
  · rw [hn.length_spans, hr]

/-- An opening brace that is given up, two blanks next to each other, the second without a label, and
an opening brace that is never closed. -/
theorem blanks_are_pairs_stray :
    tokens ['{', 'a', '{', 'b', '}', '{', '}', '{'] =
        .ok [.run 0 2 ['{', 'a'], .blank 2 5 ['b'], .blank 5 7 [], .run 7 8 ['{']] ∧
      IsPair ['{', 'a', '{', 'b', '}', '{', '}', '{'] 2 5 ∧
      IsPair ['{', 'a', '{', 'b', '}', '{', '}', '{'] 5 7 ∧
      ¬ IsPair ['{', 'a', '{', 'b', '}', '{', '}', '{'] 0 5 ∧
      (∀ j, ¬ IsPair ['{', 'a', '{', 'b', '}', '{', '}', '{'] 7 j) ∧
      ∃ s e x,
        Token.run s e x ∈ [.run 0 2 ['{', 'a'], .blank 2 5 ['b'], .blank 5 7 [], .run 7 8 ['{']] ∧
          s ≤ 7 ∧ x[7 - s]? = some '{' := by
  have h : tokens ['{', 'a', '{', 'b', '}', '{', '}', '{'] =
      .ok [.run 0 2 ['{', 'a'], .blank 2 5 ['b'], .blank 5 7 [], .run 7 8 ['{']] := rfl
  obtain ⟨hblank, -, hstray⟩ := blanks_are_pairs h
  have hnone : ∀ j, ¬ IsPair ['{', 'a', '{', 'b', '}', '{', '}', '{'] 7 j := by
    intro j hp
    have hmem := (hblank 7 j _).mpr ⟨hp, rfl⟩
    simp at hmem
  refine ⟨h, ?_, ?_, by decide, hnone, hstray 7 rfl hnone⟩
  · exact ((hblank 2 5 ['b']).mp (by simp)).1
  · exact ((hblank 5 7 []).mp (by simp)).1

end StoryBlanks.Template
