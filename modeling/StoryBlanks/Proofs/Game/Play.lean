import StoryBlanks.Game.Play
import StoryBlanks.Proofs.Library.Loading
import StoryBlanks.Proofs.Round.Playing

/-!
# Playing stories to the end

Main statement: where all stories of a library can be loaded, a picked one is played to its end if
every one of them is well formed and the player has words for it.
-/
namespace StoryBlanks

open Result

theorem Round.Turn.after_of_ok {ε α β : Type} {m : Noted ε α} {a : α} (h : m.result = .ok a)
    (answers : List Answer) (f : α → Round.Turn ε β) :
    Round.Turn.after m answers f = { f a with notes := m.notes ++ (f a).notes } := by
  simp only [Round.Turn.after, h]

theorem Round.Turn.after_of_error {ε α β : Type} {m : Noted ε α} {e : ε} (h : m.result = .error e)
    (answers : List Answer) (f : α → Round.Turn ε β) :
    Round.Turn.after m answers f = { notes := m.notes, left := answers, result := .error e } := by
  simp only [Round.Turn.after, h]

namespace Game

variable {answers : List Answer} {promptFormat : Text} {n : Nat}

theorem roundFor_eq_ok {s : Story} {r : Round} :
    (roundFor s promptFormat).result = .ok r ↔
      r.template = s.template ∧ r.promptFormat = promptFormat := by
  have h : (roundFor s promptFormat).result =
      (Round.ofTemplate s.template promptFormat).result.mapError Failure.unmatched := rfl
  rw [h, mapError_eq_ok, Round.ofTemplate_eq_ok]

/-- A well-formed story with a word for each blank. -/
theorem play_words {s : Story} {ls : List Text} (hls : Template.labels s.template = .ok ls)
    (hlen : ls.length ≤ (Answer.words answers).length) (hn : 0 < n) (promptFormat : Text) :
    ∃ filled notes, Template.fill s.template ((Answer.words answers).take ls.length) = .ok filled ∧
      play s ⟨.int n, promptFormat⟩ answers =
        { prompts := ls.map (Text.replace Round.slot · promptFormat)
          printed := [[], Wrap.wrap n filled]
          notes
          left := answers.drop ls.length
          result := .ok (Wrap.wrap n filled) } := by
  obtain ⟨filled, hfilled⟩ := Template.exists_fill hls (List.length_take_of_le hlen)
  have hround : (roundFor s promptFormat).result = .ok ⟨s.template, ls, promptFormat, hls⟩ :=
    roundFor_eq_ok.mpr ⟨rfl, rfl⟩
  obtain ⟨notes, hplay⟩ :=
    Round.play_words (r := ⟨s.template, ls, promptFormat, hls⟩) hn hlen hfilled
  refine ⟨filled, (roundFor s promptFormat).notes ++ notes, hfilled, ?_⟩
  rw [play, Round.Turn.after_of_ok hround, hplay]
  rfl

/-- A story that is not well formed. -/
theorem play_unmatched {s : Story} {e : Template.Unmatched}
    (h : Template.labels s.template = .error e) (o : Options) (answers : List Answer) :
    ∃ notes, play s o answers =
      { notes, left := answers, result := .error (Failure.unmatched e) } := by
  have hround : (roundFor s o.promptFormat).result = .error (Failure.unmatched e) := by
    have hresult : (roundFor s o.promptFormat).result =
        (Round.ofTemplate s.template o.promptFormat).result.mapError Failure.unmatched := rfl
    rw [hresult, mapError_eq_error]
    exact ⟨e, Round.ofTemplate_eq_error.mpr h, rfl⟩
  exact ⟨_, Round.Turn.after_of_error hround answers _⟩

/-- A well-formed story with something else than a positive whole number for a width. -/
theorem play_invalid {s : Story} {ls : List Text} (hls : Template.labels s.template = .ok ls)
    {width : Value} (h : ∀ n : Nat, 0 < n → width ≠ .int n) (promptFormat : Text)
    (answers : List Answer) :
    ∃ notes, play s ⟨width, promptFormat⟩ answers =
      { notes, left := answers, result := .error (.round (.width ⟨width⟩)) } := by
  have hround : (roundFor s promptFormat).result = .ok ⟨s.template, ls, promptFormat, hls⟩ :=
    roundFor_eq_ok.mpr ⟨rfl, rfl⟩
  refine ⟨(roundFor s promptFormat).notes ++ [], ?_⟩
  rw [play, Round.Turn.after_of_ok hround, Round.play_invalid h]
  rfl

/-- A well-formed story with too few words for its blanks. -/
theorem play_short {s : Story} {ls : List Text} (hls : Template.labels s.template = .ok ls)
    (hlen : (Answer.words answers).length < ls.length) (hn : 0 < n) (promptFormat : Text) :
    ∃ notes left, play s ⟨.int n, promptFormat⟩ answers =
      { prompts := (ls.take ((Answer.words answers).length + 1)).map
          (Text.replace Round.slot · promptFormat)
        notes
        left
        result := .error (.round (Answer.ending answers)) } := by
  have hround : (roundFor s promptFormat).result = .ok ⟨s.template, ls, promptFormat, hls⟩ :=
    roundFor_eq_ok.mpr ⟨rfl, rfl⟩
  refine ⟨(roundFor s promptFormat).notes ++ [],
    answers.drop (min ls.length ((Answer.words answers).length + 1)), ?_⟩
  rw [play, Round.Turn.after_of_ok hround, Round.play_short hn hlen]
  rfl

end Game
end StoryBlanks
