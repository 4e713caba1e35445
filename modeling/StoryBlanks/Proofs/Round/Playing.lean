import StoryBlanks.Round
import StoryBlanks.Proofs.Result
import StoryBlanks.Proofs.Template.Nesting

/-!
# What a round does

Main statement: with anything but a positive whole number for a width a round does nothing at all,
and otherwise it asks for the labels of its template in order, up to the first answer that is no
word; if there are enough words, it prints the template filled with them and wrapped, and nothing
can go wrong any more.
-/
namespace StoryBlanks

namespace Width

theorem ofValue_natCast {n : Nat} (h : 0 < n) : ofValue (.int n) = .ok ⟨n, h⟩ := by
  cases n with
  | zero => exact absurd h (Nat.lt_irrefl 0)
  | succ n => rfl

/-- Every value but a positive whole number is refused. -/
theorem ofValue_eq_error {v : Value} (h : ∀ n : Nat, 0 < n → v ≠ .int n) :
    ofValue v = .error ⟨v⟩ := by
  unfold ofValue
  split
  · next n => exact absurd rfl (h (n + 1) (Nat.succ_pos n))
  · rfl

end Width

namespace Answer

def words : List Answer → List Text
  | .word w :: answers => w :: words answers
  | _ => []

/-- What stops the player after these words. -/
def ending : List Answer → Round.Failure
  | .word _ :: answers => ending answers
  | .quit :: _ => .quit
  | [] => .noAnswer

theorem ending_ne_fill (answers : List Answer) (e : Template.FillError) :
    ending answers ≠ .fill e := by
  fun_induction ending answers with
  | case1 w answers ih => exact ih
  | case2 answers => simp
  | case3 => simp

end Answer

namespace Round

open Result Answer

variable {r : Round}

/-- Labels are asked for until the words run out, and one more answer is taken then: by induction on
the labels, as long as the answers are words. -/
theorem ask_eq (r : Round) (ls : List Text) (answers : List Answer) : r.ask ls answers =
    { prompts := (ls.take ((words answers).length + 1)).map r.promptText
      left := answers.drop (min ls.length ((words answers).length + 1))
      result := if ls.length ≤ (words answers).length then .ok ((words answers).take ls.length)
        else .error (ending answers) } := by
  induction ls generalizing answers with
  | nil => simp [ask]
  | cons l ls ih =>
    match answers with
    | [] => simp [ask, words, ending]
    | .quit :: answers => simp [ask, words, ending]
    | .word w :: answers =>
      rw [ask, ih]
      by_cases h : ls.length ≤ (words answers).length
      · simp [Turn.map, words, h, Except.map]
      · simp [Turn.map, words, ending, h, Except.map]

/-- A round is made of every well-formed template. -/
theorem ofTemplate_eq_ok {t promptFormat : Text} :
    (ofTemplate t promptFormat).result = .ok r ↔
      r.template = t ∧ r.promptFormat = promptFormat := by
  unfold ofTemplate
  split
  · next e he =>
    simp only [reduceCtorEq, false_iff, not_and]
    rintro rfl
    simp [r.labels_eq] at he
  · next ls hls =>
    constructor
    · intro h
      cases h
      exact ⟨rfl, rfl⟩
    · rintro ⟨rfl, rfl⟩
      obtain rfl : r.labels = ls := by simpa [r.labels_eq] using hls
      rfl

theorem ofTemplate_eq_error {t promptFormat : Text} {e : Template.Unmatched} :
    (ofTemplate t promptFormat).result = .error e ↔ Template.labels t = .error e := by
  unfold ofTemplate
  split
  · next cause hcause => simp [hcause]
  · next ls hls => simp [hls]

theorem exists_ofTemplate_iff {t promptFormat : Text} :
    (∃ r : Round, (ofTemplate t promptFormat).result = .ok r) ↔
      ∃ ls, Template.labels t = .ok ls := by
  constructor
  · rintro ⟨r, hr⟩
    obtain ⟨rfl, -⟩ := ofTemplate_eq_ok.mp hr
    exact ⟨r.labels, r.labels_eq⟩
  · rintro ⟨ls, hls⟩
    exact ⟨⟨t, ls, promptFormat, hls⟩, ofTemplate_eq_ok.mpr ⟨rfl, rfl⟩⟩

theorem wrap_result {n : Nat} (hn : 0 < n) (text : Text) :
    (wrap text (.int n)).result = .ok (Wrap.wrap n text) := by
  rw [wrap, Width.ofValue_natCast hn, Noted.result_bind]
  refine bind_eq_ok.mpr ⟨⟨n, hn⟩, rfl, ?_⟩
  by_cases h : (Wrap.layout n text).overflow = 0
  · simp only [h, ne_eq, not_true_eq_false, if_false]
    rfl
  · simp only [h, ne_eq, not_false_eq_true, if_true]
    rfl

/-- Enough words are filled in and wrapped. -/
theorem render_result {n : Nat} (hn : 0 < n) {responses : List Text} {s : Text}
    (hs : Template.fill r.template responses = .ok s) :
    (r.render responses (.int n)).result = .ok (Wrap.wrap n s) := by
  simp only [render, fill, hs, Noted.result_bind, Noted.result_lift, Noted.result_note,
    Noted.result_pure]
  exact wrap_result hn s

theorem play_invalid {width : Value} (h : ∀ n : Nat, 0 < n → width ≠ .int n)
    (answers : List Answer) :
    r.play width answers = { left := answers, result := .error (.width ⟨width⟩) } := by
  simp only [play, Width.ofValue_eq_error h]

/-- Too few words end a round with nothing printed. -/
theorem play_short {n : Nat} (hn : 0 < n) {answers : List Answer}
    (h : (words answers).length < r.labels.length) :
    r.play (.int n) answers =
      { prompts := (r.labels.take ((words answers).length + 1)).map r.promptText
        left := answers.drop (min r.labels.length ((words answers).length + 1))
        result := .error (ending answers) } := by
  simp only [play, Width.ofValue_natCast hn, collect, ask_eq, if_neg (Nat.not_le.mpr h)]

/-- Enough words are filled in, wrapped and printed. -/
theorem play_words {n : Nat} (hn : 0 < n) {answers : List Answer} {s : Text}
    (h : r.labels.length ≤ (words answers).length)
    (hs : Template.fill r.template ((words answers).take r.labels.length) = .ok s) :
    ∃ notes, r.play (.int n) answers =
      { prompts := r.labels.map r.promptText
        printed := [[], Wrap.wrap n s]
        notes
        left := answers.drop r.labels.length
        result := .ok (Wrap.wrap n s) } := by
  have htake : r.labels.take ((words answers).length + 1) = r.labels :=
    List.take_of_length_le (by omega)
  have hmin : min r.labels.length ((words answers).length + 1) = r.labels.length := by omega
  simp only [play, Width.ofValue_natCast hn, collect, ask_eq, if_pos h, render_result hn hs, htake,
    hmin]
  exact ⟨_, rfl⟩

/-- A round with a well-formed template, in full. A width that is not a positive whole number is
refused before anything else happens. Otherwise the labels are asked for in order, one answer being
taken for each prompt, until there is a word for every label or an answer is no word or missing.
With a word for every label, an empty line and the filled and wrapped template are printed and
nothing else; without, nothing is printed. The words never fail to fit the template. -/
theorem play_spec {t : Text} {ls : List Text} (h : Template.labels t = .ok ls)
    (promptFormat : Text) :
    ∃ r : Round, (ofTemplate t promptFormat).result = .ok r ∧ r.promptFormat = promptFormat ∧
      ∀ (width : Value) (answers : List Answer),
        (∀ e, (r.play width answers).result ≠ .error (.fill e)) ∧
        ((∀ n : Nat, 0 < n → width ≠ .int n) →
          r.play width answers = { left := answers, result := .error (.width ⟨width⟩) }) ∧
        ∀ n : Nat, 0 < n → width = .int n →
          (r.play width answers).prompts =
            (ls.take ((words answers).length + 1)).map r.promptText ∧
          (r.play width answers).left = answers.drop (r.play width answers).prompts.length ∧
          (ls.length ≤ (words answers).length →
            ∃ s, Template.fill t ((words answers).take ls.length) = .ok s ∧
              (r.play width answers).prompts.length = ls.length ∧
              (r.play width answers).printed = [[], Wrap.wrap n s] ∧
              (r.play width answers).result = .ok (Wrap.wrap n s)) ∧
          ((words answers).length < ls.length →
            (r.play width answers).printed = [] ∧
              (r.play width answers).result = .error (ending answers)) := by
  obtain ⟨r, hr⟩ : ∃ r : Round, (ofTemplate t promptFormat).result = .ok r :=
    exists_ofTemplate_iff.mpr ⟨ls, h⟩
  obtain ⟨rfl, hformat⟩ := ofTemplate_eq_ok.mp hr
  obtain rfl : r.labels = ls := Except.ok.inj (r.labels_eq.symm.trans h)
  refine ⟨r, hr, hformat, fun width answers => ?_⟩
  by_cases hwidth : ∃ n : Nat, 0 < n ∧ width = .int n
  -- whether the words are enough decides the whole turn
  · obtain ⟨n, hn, rfl⟩ := hwidth
    have honly : ∀ m : Nat, Value.int n = .int m → n = m := fun m hm => by
      injection hm with hm
      omega
    by_cases hle : r.labels.length ≤ (words answers).length
    · obtain ⟨s, hs⟩ := Template.exists_fill h (List.length_take_of_le hle)
      obtain ⟨notes, hplay⟩ := play_words hn hle hs
      have htake : r.labels.take ((words answers).length + 1) = r.labels :=
        List.take_of_length_le (Nat.le_succ_of_le hle)
      rw [hplay]
      refine ⟨fun e => by simp, fun hinvalid => absurd rfl (hinvalid n hn), fun m hm he => ?_⟩
      obtain rfl := honly m he
      refine ⟨by rw [htake], by rw [List.length_map], fun _ => ?_, fun hlt => ?_⟩
      · exact ⟨s, hs, List.length_map _, rfl, rfl⟩
      · exact absurd hle (Nat.not_le.mpr hlt)
    · have hlt : (words answers).length < r.labels.length := Nat.lt_of_not_le hle
      rw [play_short hn hlt]
      refine ⟨fun e he => ending_ne_fill answers e (by simpa using he),
        fun hinvalid => absurd rfl (hinvalid n hn), fun m hm he => ?_⟩
      refine ⟨rfl, ?_, fun hle' => absurd hle' hle, fun _ => ⟨rfl, rfl⟩⟩
      rw [List.length_map, List.length_take, Nat.min_comm]
  · have hinvalid : ∀ n : Nat, 0 < n → width ≠ .int n :=
      fun n hn he => hwidth ⟨n, hn, he⟩
    rw [play_invalid hinvalid]
    exact ⟨fun e => by simp, fun _ => rfl, fun n hn he => absurd he (hinvalid n hn)⟩

/-- Answers with braces are not read as blanks, and an answer that is not asked for is kept. -/
theorem play_spec_braces :
    Template.labels ['{', 'x', '}'] = .ok [['x']] ∧
      ∃ r : Round, (ofTemplate ['{', 'x', '}'] slot).result = .ok r ∧
        (r.play (.int 1) [.word ['{', ' ', '}'], .quit]).prompts = [['x']] ∧
        (r.play (.int 1) [.word ['{', ' ', '}'], .quit]).printed = [[], ['{', '\n', '}']] ∧
        (r.play (.int 1) [.word ['{', ' ', '}'], .quit]).left = [.quit] ∧
        (r.play (.int 1) [.word ['{', ' ', '}'], .quit]).result = .ok ['{', '\n', '}'] := by
  have hlabels : Template.labels ['{', 'x', '}'] = .ok [['x']] := by cbv
  obtain ⟨r, hr, hformat, h⟩ := play_spec hlabels slot
  obtain ⟨-, -, h⟩ := h (.int 1) [.word ['{', ' ', '}'], .quit]
  obtain ⟨hprompts, hleft, hwords, -⟩ := h 1 Nat.one_pos rfl
  obtain ⟨s, hs, hlength, hprinted, hresult⟩ := hwords (by decide)
  have hfill : Template.fill ['{', 'x', '}'] [['{', ' ', '}']] = .ok ['{', ' ', '}'] := by cbv
  obtain rfl : ['{', ' ', '}'] = s := by simpa [words, hfill] using hs
  refine ⟨hlabels, r, hr, ?_, hprinted, ?_, hresult⟩
  · rw [hprompts]
    simp [words, promptText, hformat]
    cbv
  · rw [hleft, hlength]
    rfl

end Round
end StoryBlanks
