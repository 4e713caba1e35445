import StoryBlanks.Proofs.Round.Playing

/-!
# Answers over several turns

All turns of a round draw from one list of answers. Main statement: whatever is done with a round,
in whatever order and with whatever success, the prompts of the whole run get the answers one by
one, the first prompt the first answer, and no answer is given to anything but a prompt.
-/
namespace StoryBlanks.Round

open Result Answer

/-- What the prompt gets that comes after so many others. -/
def received (answers : List Answer) (before : Nat) : Except Failure Text :=
  match answers[before]? with
  | some (.word w) => .ok w
  | some .quit => .error .quit
  | none => .error .noAnswer

def promptCount : List (Turn Failure Reply) → Nat
  | [] => 0
  | t :: turns => t.prompts.length + promptCount turns

def Step.Asks : Step → Prop
  | .collect => True
  | .play width => ∃ n : Nat, 0 < n ∧ width = .int n
  | _ => False

/-- Some labels are asked for after so many prompts.

* `shown`: the prompts are those for the labels, in order;
* `given`: what comes of it is what the prompts get, one after another;
* `words`: only the last prompt may get something else than a word;
* `all`: unless one does, there is a prompt for every label. -/
structure Asked (r : Round) (answers : List Answer) (before : Nat) (labels prompts : List Text)
    (outcome : Except Failure (List Text)) : Prop where
  shown : prompts = (labels.take prompts.length).map r.promptText
  given : outcome = (List.range' before prompts.length).mapM (received answers)
  words : ∀ j, j + 1 < prompts.length → ∃ w, received answers (before + j) = .ok w
  all : ∀ ws, outcome = .ok ws → prompts.length = labels.length

/-- What a turn has to do with the answers, after so many prompts in the turns before.

* `left`: exactly the answers to its own prompts are taken;
* `asks`, `prints`: few steps show prompts, and only a successful play prints;
* `collect`, `play`: the result is made of what the prompts get;
* `labels`: the labels are those that they have always been. -/
structure Accounted (r : Round) (answers : List Answer) (before : Nat) (next : Step)
    (t : Turn Failure Reply) : Prop where
  left : t.left = answers.drop (before + t.prompts.length)
  asks : t.prompts ≠ [] → next.Asks
  prints : t.printed ≠ [] → ∃ width text, next = .play width ∧ t.result = .ok (.text text)
  collect : next = .collect → ∃ outcome, Asked r answers before r.labels t.prompts outcome ∧
    t.result = outcome.map .texts
  play : ∀ n : Nat, 0 < n → next = .play (.int n) →
    ∃ outcome, Asked r answers before r.labels t.prompts outcome ∧
      t.result = outcome >>= fun words => (r.render words (.int n)).result.map .text
  labels : next = .labels → t.result = .ok (.texts r.labels)

variable {r : Round} {answers : List Answer} {before : Nat}

/-! ## Asking -/

theorem received_of_drop {a : Answer} {rest : List Answer} (h : answers.drop before = a :: rest) :
    answers[before]? = some a ∧ answers.drop (before + 1) = rest := by
  constructor
  · rw [← Nat.add_zero before, ← List.getElem?_drop, h]
    rfl
  · rw [← List.drop_drop, h]
    rfl

theorem Asked.nil (r : Round) (answers : List Answer) (before : Nat) :
    Asked r answers before [] [] (.ok []) :=
  ⟨rfl, rfl, fun _ hj => absurd hj (Nat.not_lt_zero _), fun _ _ => rfl⟩

/-- A prompt that gets no word is the last one. -/
theorem Asked.stop {e : Failure} (h : received answers before = .error e) (l : Text)
    (ls : List Text) : Asked r answers before (l :: ls) [r.promptText l] (.error e) where
  shown := rfl
  given := by
    rw [List.length_singleton, List.range'_one, List.mapM_cons, h]
    rfl
  words j hj := by simp at hj
  all ws hws := by cases hws

/-- After a prompt that gets a word, the other labels are asked for. -/
theorem Asked.cons {w : Text} {ls prompts : List Text} {outcome : Except Failure (List Text)}
    (h : received answers before = .ok w) (l : Text)
    (hrest : Asked r answers (before + 1) ls prompts outcome) :
    Asked r answers before (l :: ls) (r.promptText l :: prompts) (outcome.map (w :: ·)) where
  shown := by
    rw [List.length_cons, List.take_succ_cons, List.map_cons, ← hrest.shown]
  given := by
    rw [List.length_cons, List.range'_succ, List.mapM_cons, h, hrest.given]
    rfl
  words j hj := by
    cases j with
    | zero => exact ⟨w, h⟩
    | succ j =>
      obtain ⟨v, hv⟩ := hrest.words j (by simpa using hj)
      exact ⟨v, by rwa [Nat.add_right_comm] at hv⟩
  all ws hws := by
    obtain ⟨rest, hok, -⟩ := map_eq_ok.mp hws
    rw [List.length_cons, List.length_cons, hrest.all rest hok]

/-- Asking takes an answer for each prompt: by induction on the labels. -/
theorem ask_asked (r : Round) (answers : List Answer) (before : Nat) (ls : List Text) :
    Asked r answers before ls (r.ask ls (answers.drop before)).prompts
        (r.ask ls (answers.drop before)).result ∧
      (r.ask ls (answers.drop before)).left =
        answers.drop (before + (r.ask ls (answers.drop before)).prompts.length) := by
  induction ls generalizing before with
  | nil => exact ⟨.nil r answers before, rfl⟩
  | cons l ls ih =>
    cases hdrop : answers.drop before with
    | nil =>
      have hnone : answers[before]? = none :=
        List.getElem?_eq_none (List.drop_eq_nil_iff.mp hdrop)
      refine ⟨.stop (by simp only [received, hnone]) l ls, ?_⟩
      rw [ask, List.length_singleton, ← List.drop_drop, hdrop]
      rfl
    | cons a rest =>
      obtain ⟨hget, hrest⟩ := received_of_drop hdrop
      cases a with
      | quit => exact ⟨.stop (by simp only [received, hget]) l ls, hrest.symm⟩
      | word w =>
        obtain ⟨hasked, hleft⟩ := ih (before + 1)
        rw [hrest] at hasked hleft
        refine ⟨hasked.cons (by simp only [received, hget]) l, ?_⟩
        rw [ask]
        simp only [Turn.map, hleft, List.length_cons]
        congr 1
        omega

/-- A play with a good width asks as `collect` does, and renders what it gets. -/
theorem play_collects {n : Nat} (hn : 0 < n) (answers : List Answer) :
    (r.play (.int n) answers).prompts = (r.collect answers).prompts ∧
      (r.play (.int n) answers).left = (r.collect answers).left ∧
      (r.play (.int n) answers).result =
        (r.collect answers).result >>= fun words => (r.render words (.int n)).result := by
  cases hasked : (r.collect answers).result with
  | error e =>
    simp only [play, Width.ofValue_natCast hn, hasked]
    exact ⟨trivial, trivial, rfl⟩
  | ok words =>
    cases hstory : (r.render words (.int n)).result with
    | error e =>
      simp only [play, Width.ofValue_natCast hn, hasked, hstory]
      exact ⟨trivial, trivial, hstory.symm⟩
    | ok text =>
      simp only [play, Width.ofValue_natCast hn, hasked, hstory]
      exact ⟨trivial, trivial, hstory.symm⟩

theorem collect_printed (r : Round) (answers : List Answer) : (r.collect answers).printed = [] := by
  rw [collect, ask_eq]

/-- Nothing is printed unless the width is good and there are enough words. -/
theorem play_printed {width : Value} (h : (r.play width answers).printed ≠ []) :
    ∃ text, (r.play width answers).result = .ok text := by
  by_cases hwidth : ∃ n : Nat, 0 < n ∧ width = .int n
  · obtain ⟨n, hn, rfl⟩ := hwidth
    by_cases hle : r.labels.length ≤ (words answers).length
    · obtain ⟨s, hs⟩ := Template.exists_fill r.labels_eq (List.length_take_of_le hle)
      obtain ⟨notes, hplay⟩ := play_words hn hle hs
      exact ⟨_, by rw [hplay]⟩
    · rw [play_short hn (Nat.lt_of_not_le hle)] at h
      exact absurd rfl h
  · rw [play_invalid fun n hn he => hwidth ⟨n, hn, he⟩] at h
    exact absurd rfl h

/-! ## One step -/

/-- A turn that asks for nothing leaves the answers alone. -/
theorem Accounted.silent {next : Step} {t : Turn Failure Reply} (hnext : ¬ next.Asks)
    (hprompts : t.prompts = []) (hprinted : t.printed = []) (hleft : t.left = answers.drop before)
    (hlabels : next = .labels → t.result = .ok (.texts r.labels)) :
    Accounted r answers before next t where
  left := by rw [hprompts, hleft, List.length_nil, Nat.add_zero]
  asks h := absurd hprompts h
  prints h := absurd hprinted h
  collect h := by
    subst h
    exact absurd trivial hnext
  play n hn h := by
    subst h
    exact absurd ⟨n, hn, rfl⟩ hnext
  labels := hlabels

theorem collect_accounted (r : Round) (answers : List Answer) (before : Nat) :
    Accounted r answers before .collect (r.step (answers.drop before) .collect) where
  left := (ask_asked r answers before r.labels).2
  asks _ := trivial
  prints h := absurd (collect_printed r _) h
  collect _ := ⟨_, (ask_asked r answers before r.labels).1, rfl⟩
  play _ _ h := by cases h
  labels h := by cases h

/-- With a good width, a play has to do with the answers what `collect` has. -/
theorem play_accounted {n : Nat} (hn : 0 < n) (r : Round) (answers : List Answer) (before : Nat) :
    Accounted r answers before (.play (.int n)) (r.step (answers.drop before) (.play (.int n))) := by
  obtain ⟨hasked, hleft⟩ := ask_asked r answers before r.labels
  obtain ⟨hprompts, hrest, hresult⟩ := play_collects (r := r) hn (answers.drop before)
  constructor
  case left =>
    simp only [step, Turn.map, hprompts, hrest]
    exact hleft
  case asks => exact fun _ => ⟨n, hn, rfl⟩
  case prints =>
    intro h
    obtain ⟨text, htext⟩ := play_printed h
    exact ⟨_, text, rfl, by simp only [step, Turn.map, htext, Except.map]⟩
  case collect => exact fun h => by cases h
  case play =>
    intro m hm h
    obtain rfl : n = m := by simpa [Int.ofNat_inj] using h
    refine ⟨(r.collect (answers.drop before)).result, ?_, ?_⟩
    · simp only [step, Turn.map, hprompts]
      exact hasked
    · simp only [step, Turn.map, hresult]
      cases (r.collect (answers.drop before)).result <;> rfl
  case labels => exact fun h => by cases h

/-- What one step does with the answers, by cases on the step. -/
theorem step_accounted (r : Round) (answers : List Answer) (before : Nat) (next : Step) :
    Accounted r answers before next (r.step (answers.drop before) next) := by
  cases next with
  | labels => exact .silent id rfl rfl rfl fun _ => rfl
  | promptText label => exact .silent id rfl rfl rfl fun h => by cases h
  | fill responses => exact .silent id rfl rfl rfl fun h => by cases h
  | render responses width => exact .silent id rfl rfl rfl fun h => by cases h
  | collect => exact collect_accounted r answers before
  | play width =>
    by_cases hwidth : ∃ n : Nat, 0 < n ∧ width = .int n
    · obtain ⟨n, hn, rfl⟩ := hwidth
      exact play_accounted hn r answers before
    · have hinvalid := play_invalid (r := r) (fun n hn he => hwidth ⟨n, hn, he⟩)
        (answers.drop before)
      refine .silent hwidth ?_ ?_ ?_ fun h => by cases h
      all_goals simp only [step, Turn.map, hinvalid]

/-! ## A run -/

/-- By induction on the steps: each turn leaves to the next one the answers after its own. -/
theorem run_accounted (r : Round) (answers : List Answer) (before : Nat) (steps : List Step) :
    ∀ i next t, steps[i]? = some next → (r.run (answers.drop before) steps)[i]? = some t →
      Accounted r answers
        (before + promptCount ((r.run (answers.drop before) steps).take i)) next t := by
  induction steps generalizing before with
  | nil => exact fun i next t hnext => by simp at hnext
  | cons first steps ih =>
    have hfirst := step_accounted r answers before first
    intro i next t hnext hturn
    rw [run] at hturn ⊢
    cases i with
    | zero =>
      obtain rfl : first = next := by simpa using hnext
      obtain rfl : r.step (answers.drop before) first = t := by simpa using hturn
      simpa [promptCount] using hfirst
    | succ i =>
      simp only [hfirst.left, List.getElem?_cons_succ] at hnext hturn
      have hrest := ih _ i next t hnext hturn
      simp only [List.take_succ_cons, promptCount, hfirst.left]
      rwa [Nat.add_assoc] at hrest

theorem run_length (r : Round) (answers : List Answer) (steps : List Step) :
    (r.run answers steps).length = steps.length := by
  induction steps generalizing answers with
  | nil => rfl
  | cons first steps ih => rw [run, List.length_cons, List.length_cons, ih]

/-- Any run of steps on a round, whether they succeed or not: a turn for each step, and before each
turn exactly as many answers are gone as there were prompts, or all of them. So each prompt of the
run gets the answer that has its number, until there are none. -/
theorem run_accounts (r : Round) (answers : List Answer) (steps : List Step) :
    (r.run answers steps).length = steps.length ∧
      ∀ i next t, steps[i]? = some next → (r.run answers steps)[i]? = some t →
        Accounted r answers (promptCount ((r.run answers steps).take i)) next t := by
  refine ⟨run_length r answers steps, fun i next t hnext hturn => ?_⟩
  have h := run_accounted r answers 0 steps i next t hnext hturn
  rwa [List.drop_zero, Nat.zero_add] at h

/-- The player breaks off at the second blank; a play that follows goes on with the answer after
that, and lacks one for its own second blank. -/
theorem run_accounts_resumed :
    ∃ r : Round, r.template = ['{', 'a', '}', '{', 'b', '}'] ∧
      ∃ first second third : Turn Failure Reply,
        r.run [.word ['x'], .quit, .word ['y']] [.collect, .labels, .play (.int 1)] =
          [first, second, third] ∧
        promptCount [first, second] = 2 ∧
        Accounted r [.word ['x'], .quit, .word ['y']] 2 (.play (.int 1)) third ∧
        third.left = [] ∧ third.prompts.length = 2 := by
  have hlabels : Template.labels ['{', 'a', '}', '{', 'b', '}'] = .ok [['a'], ['b']] := by cbv
  have h := run_accounts ⟨_, _, usualFormat, hlabels⟩ [.word ['x'], .quit, .word ['y']]
    [.collect, .labels, .play (.int 1)]
  exact ⟨⟨_, _, usualFormat, hlabels⟩, rfl, _, _, _, rfl, rfl, h.2 2 _ _ rfl rfl, rfl, rfl⟩

end StoryBlanks.Round
