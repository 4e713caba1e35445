import StoryBlanks.Command.Run
import StoryBlanks.Proofs.Result

/-!
# The level of the journal

The words may name a level, which decides on the notes that are written. Nothing that reads words
looks at the level named so far, and no command does. Main statement: two runs whose words differ
in a level write the same output, take the same answers and end in the same way, and what they write
to the error output differs only in the notes that are admitted.
-/
namespace StoryBlanks.Command

open Result

/-! ## Words apart from the level -/

def Arguments.unlevelled (a : Arguments) : Arguments := { a with logLevel := none }

def Read.unlevelled (r : Read) : Read := { r with arguments := r.arguments.unlevelled }

variable {form : Form} {a b : Arguments} {r s : Read}

theorem Read.unlevelled_eq_iff : r.unlevelled = s.unlevelled ↔
    r.arguments.unlevelled = s.arguments.unlevelled ∧ r.unknown = s.unknown := by
  simp [Read.unlevelled]

def Read.taking (form : Form) (r : Read) (flags : List (Flag × Option Text)) : Except Stop Read :=
  do return ⟨← flags.foldlM (take form) r.arguments, r.unknown⟩

/-- Taking a flag does not look at the level. -/
theorem take_alike (h : a.unlevelled = b.unlevelled) (asked : Flag × Option Text) :
    (take form a asked).map Arguments.unlevelled = (take form b asked).map Arguments.unlevelled := by
  obtain ⟨flag, value⟩ := asked
  obtain ⟨command, level, stories, story, width, seed⟩ := a
  obtain ⟨command', level', stories', story', width', seed'⟩ := b
  simp only [Arguments.unlevelled, Arguments.mk.injEq, true_and] at h
  obtain ⟨rfl, rfl, rfl, rfl, rfl⟩ := h
  cases flag with
  | help => rfl
  | version => rfl
  | logLevel => rfl
  | stories => rfl
  | story => rfl
  | width =>
    simp only [take]
    cases numberOf .width value <;> rfl
  | seed =>
    simp only [take]
    cases numberOf .seed value <;> rfl

theorem foldlM_take_alike (flags : List (Flag × Option Text)) {a b : Arguments}
    (h : a.unlevelled = b.unlevelled) :
    (flags.foldlM (take form) a).map Arguments.unlevelled =
      (flags.foldlM (take form) b).map Arguments.unlevelled := by
  induction flags generalizing a b with
  | nil => exact congrArg Except.ok h
  | cons asked flags ih =>
    rw [List.foldlM_cons, List.foldlM_cons]
    exact bind_alike (take_alike h asked) fun a b => ih

/-- By induction on the flags: each of them does the same to both, and a level changes nothing else.
-/
theorem taking_alike (h : r.unlevelled = s.unlevelled) (flags : List (Flag × Option Text)) :
    (r.taking form flags).map Read.unlevelled = (s.taking form flags).map Read.unlevelled := by
  obtain ⟨harguments, hunknown⟩ := Read.unlevelled_eq_iff.mp h
  refine bind_alike (foldlM_take_alike flags harguments) fun a b hab => ?_
  exact congrArg Except.ok (Read.unlevelled_eq_iff.mpr ⟨hab, hunknown⟩)

/-! ## Reading -/

section
variable {command : Option (Read → List Text → Except Stop Read)} {word : Text} {mention : Mention}
  {asked : Asked}

theorem read_flag (h : unfold form (word.length + 1) mention = .ok asked)
    (hwaiting : asked.waiting = none) (words : List Word) (r : Read) :
    read form command (.flag word (some mention) :: words) r =
      r.taking form asked.flags >>= read form command words := by
  simp only [read, h, hwaiting, Read.taking]
  cases asked.flags.foldlM (take form) r.arguments <;> rfl

theorem read_flag_value (h : unfold form (word.length + 1) mention = .ok asked) {flag : Flag}
    (hwaiting : asked.waiting = some flag) (value : Text) (words : List Word) (r : Read) :
    read form command (.flag word (some mention) :: .plain value :: words) r =
      r.taking form (asked.flags ++ [(flag, some value)]) >>= read form command words := by
  simp only [read, h, hwaiting, Read.taking]
  cases (asked.flags ++ [(flag, some value)]).foldlM (take form) r.arguments <;> rfl

theorem read_flag_noValue (h : unfold form (word.length + 1) mention = .ok asked) {flag : Flag}
    (hwaiting : asked.waiting = some flag) {words : List Word}
    (hwords : ∀ value rest, words ≠ .plain value :: rest) (r : Read) :
    read form command (.flag word (some mention) :: words) r =
      .error (.misuse form (.noValue flag)) := by
  rw [read.eq_def]
  dsimp only
  rw [h]
  dsimp only
  rw [hwaiting]
  dsimp only
  split
  · next value rest => exact absurd rfl (hwords value rest)
  · rfl

theorem read_flag_misuse {e : Misuse} (h : unfold form (word.length + 1) mention = .error e)
    (words : List Word) (r : Read) :
    read form command (.flag word (some mention) :: words) r = .error (.misuse form e) := by
  rw [read.eq_def]
  dsimp only
  rw [h]

/-- Two ways to read words come to the same, apart from the level. -/
def Alike (f g : Read → Except Stop Read) : Prop :=
  ∀ r s : Read, r.unlevelled = s.unlevelled →
    (f r).map Read.unlevelled = (g s).map Read.unlevelled

theorem Alike.after_taking {f g : Read → Except Stop Read} (h : Alike f g)
    (flags : List (Flag × Option Text)) :
    Alike (fun r => r.taking form flags >>= f) (fun s => s.taking form flags >>= g) :=
  fun _ _ hrs => bind_alike (taking_alike hrs flags) h

theorem Alike.with_unknown {f g : Read → Except Stop Read} (h : Alike f g) (words : List Text) :
    Alike (fun r => f { r with unknown := r.unknown ++ words })
      (fun s => g { s with unknown := s.unknown ++ words }) := by
  intro r s hrs
  obtain ⟨harguments, hunknown⟩ := Read.unlevelled_eq_iff.mp hrs
  exact h _ _ (Read.unlevelled_eq_iff.mpr ⟨harguments, by rw [hunknown]⟩)

theorem Alike.done : Alike .ok .ok := fun _ _ hrs => congrArg Except.ok hrs

/-- A flag with a value takes it from the next word or is misused. Any other flag goes before all the
words that follow. -/
theorem read_flag_alike (word : Text) (mention : Option Mention) {ws vs : List Word}
    (hnext : Alike (read form command ws) (read form command vs))
    (hvalue : (∃ value ws' vs', ws = .plain value :: ws' ∧ vs = .plain value :: vs' ∧
        Alike (read form command ws') (read form command vs')) ∨
      (∀ value rest, ws ≠ .plain value :: rest) ∧ ∀ value rest, vs ≠ .plain value :: rest) :
    Alike (read form command (.flag word mention :: ws))
      (read form command (.flag word mention :: vs)) := by
  intro r s hrs
  cases mention with
  | none =>
    rw [read, read]
    exact hnext.with_unknown [word] r s hrs
  | some mention =>
    cases h : unfold form (word.length + 1) mention with
    | error e => rw [read_flag_misuse h, read_flag_misuse h]
    | ok asked =>
      cases hwaiting : asked.waiting with
      | none =>
        rw [read_flag h hwaiting, read_flag h hwaiting]
        exact hnext.after_taking asked.flags r s hrs
      | some flag =>
        rcases hvalue with ⟨value, ws', vs', rfl, rfl, hnext'⟩ | ⟨hws, hvs⟩
        · rw [read_flag_value h hwaiting, read_flag_value h hwaiting]
          exact hnext'.after_taking _ r s hrs
        · rw [read_flag_noValue h hwaiting hws, read_flag_noValue h hwaiting hvs]

end

/-- Reading does not look at the level if the reading of commands does not. -/
theorem read_alike : ∀ {command : Option (Read → List Text → Except Stop Read)},
    (∀ k ∈ command, ∀ words, Alike (k · words) (k · words)) →
    ∀ words : List Word, Alike (read form command words) (read form command words)
  | _, _, [] => .done
  | none, h, .plain word :: words => (read_alike h words).with_unknown [word]
  | some _, h, .plain word :: words => h _ rfl (word :: words.map Word.text)
  | none, h, .separator :: words => (read_alike h words).with_unknown [Word.separator.text]
  | some _, _, [.separator] => Alike.done.with_unknown [Word.separator.text]
  | some _, h, .separator :: word :: words =>
    h _ rfl (Word.separator.text :: (word :: words).map Word.text)
  | _, h, .flag word mention :: words => by
    refine read_flag_alike word mention (read_alike h words) ?_
    by_cases hplain : ∃ value rest, words = .plain value :: rest
    · -- reading may go on behind the value as well as with it
      obtain ⟨value, rest, rfl⟩ := hplain
      exact .inl ⟨value, rest, rest, rfl, rfl, read_alike h rest⟩
    · have hne : ∀ value rest, words ≠ .plain value :: rest :=
        fun value rest he => hplain ⟨value, rest, he⟩
      exact .inr ⟨hne, hne⟩

theorem readCommand_alike (words : List Text) : Alike (readCommand · words) (readCommand · words) := by
  intro r s hrs
  match words with
  | [] => exact Alike.done r s hrs
  | word :: words =>
    cases hname : ofName? word with
    | none => simp only [readCommand, hname]
    | some c =>
      cases hwords : classifyAll (.command c) words with
      | error e => simp only [readCommand, hname, hwords]
      | ok ws =>
        simp only [readCommand, hname, hwords]
        obtain ⟨harguments, hunknown⟩ := Read.unlevelled_eq_iff.mp hrs
        refine read_alike (by simp) ws _ _ (Read.unlevelled_eq_iff.mpr ⟨?_, hunknown⟩)
        simp_all [Arguments.unlevelled]

/-! ## A level among the words -/

def levelWord (level : Text) : Text := "--log-level=" ++ level

def levelFlag (level : Text) : Word :=
  .flag (levelWord level) (some ⟨.logLevel, "--log-level", some level⟩)

/-- Words that the main form reads without coming to a command: flags, and values of flags. -/
inductive Leading : List Word → Prop where
  | nil : Leading []
  | flag {word : Text} {mention : Option Mention} {ws : List Word} (rest : Leading ws) :
      Leading (.flag word mention :: ws)
  | value {word : Text} {mention : Mention} {asked : Asked} {flag : Flag} {value : Text}
      {ws : List Word} (unfolds : unfold .main (word.length + 1) mention = .ok asked)
      (waits : asked.waiting = some flag) (rest : Leading ws) :
      Leading (.flag word (some mention) :: .plain value :: ws)

theorem classify_levelWord (level : Text) :
    classify .main (levelWord level) = .ok (levelFlag level) := rfl

theorem read_levelFlag (level : Text) (words : List Word) (r : Read) :
    read .main (some readCommand) (levelFlag level :: words) r =
      read .main (some readCommand) words
        { r with arguments := { r.arguments with logLevel := some (textOf (some level)) } } := rfl

/-- What begins with such words begins with a flag, and no flag in front can take it for its value.
-/
theorem Leading.not_plain {ws : List Word} (h : Leading ws) (level : Text) (words : List Word)
    (value : Text) (rest : List Word) : ws ++ levelFlag level :: words ≠ .plain value :: rest := by
  cases h <;> simp [levelFlag]

theorem Leading.separator_not_mem {ws : List Word} (h : Leading ws) : .separator ∉ ws := by
  induction h <;> simp_all

/-- By induction on the words in front, which never come to a command. -/
theorem Leading.alike {ws : List Word} (h : Leading ws) (x y : Text) (words : List Word) :
    Alike (read .main (some readCommand) (ws ++ levelFlag x :: words))
      (read .main (some readCommand) (ws ++ levelFlag y :: words)) := by
  have hcommand : ∀ k ∈ some readCommand, ∀ words, Alike (k · words) (k · words) := by
    rintro k ⟨⟩
    exact readCommand_alike
  induction h with
  | nil =>
    intro r s hrs
    obtain ⟨harguments, hunknown⟩ := Read.unlevelled_eq_iff.mp hrs
    rw [List.nil_append, List.nil_append, read_levelFlag, read_levelFlag]
    -- behind the level the words are the same, and only what was read differs
    exact read_alike hcommand words _ _ (Read.unlevelled_eq_iff.mpr ⟨harguments, hunknown⟩)
  | flag rest ih =>
    exact read_flag_alike _ _ ih (.inr ⟨rest.not_plain x words, rest.not_plain y words⟩)
  | value unfolds waits rest ih =>
    intro r s hrs
    rw [List.cons_append, List.cons_append, List.cons_append, List.cons_append,
      read_flag_value unfolds waits, read_flag_value unfolds waits]
    exact ih.after_taking _ r s hrs

theorem classifyAll_cons {word : Text} (h : word ≠ ['-', '-']) (words : List Text) :
    classifyAll form (word :: words) =
      classify form word >>= fun w => (classifyAll form words).map (w :: ·) := by
  have hword : ¬ (word == ['-', '-']) = true := by simpa using h
  rw [classifyAll, if_neg hword]
  cases classify form word with
  | error e => rfl
  | ok w => cases classifyAll form words <;> rfl

/-- Words in front without a separator leave those behind as they are. -/
theorem classifyAll_append {pre : List Text} {ws : List Word} (h : classifyAll form pre = .ok ws)
    (hws : .separator ∉ ws) (words : List Text) :
    classifyAll form (pre ++ words) = (classifyAll form words).map (ws ++ ·) := by
  induction pre generalizing ws with
  | nil =>
    cases h
    rw [List.nil_append]
    cases classifyAll form words <;> rfl
  | cons word pre ih =>
    by_cases hword : word = ['-', '-']
    · subst hword
      cases h
      simp at hws
    · rw [classifyAll_cons hword] at h
      obtain ⟨w, hw, hpre⟩ := bind_eq_ok.mp h
      obtain ⟨vs, hvs, rfl⟩ := map_eq_ok.mp hpre
      have hrest : .separator ∉ vs := fun hmem => hws (List.mem_cons_of_mem w hmem)
      rw [List.cons_append, classifyAll_cons hword, hw, ih hvs hrest]
      cases classifyAll form words <;> rfl

/-- A level behind an equals sign is one word, whatever the level is. -/
theorem classifyAll_levelWord (level : Text) (words : List Text) :
    classifyAll .main (levelWord level :: words) =
      (classifyAll .main words).map (levelFlag level :: ·) := by
  have hword : levelWord level ≠ ['-', '-'] := by
    intro h
    cases h
  rw [classifyAll_cons hword, classify_levelWord]
  rfl

/-- The words stand for the same with another level. -/
theorem ofWords_alike {pre : List Text} {ws : List Word} (h : classifyAll .main pre = .ok ws)
    (hws : Leading ws) (x y : Text) (words : List Text) :
    (Arguments.ofWords (pre ++ levelWord x :: words)).map Arguments.unlevelled =
      (Arguments.ofWords (pre ++ levelWord y :: words)).map Arguments.unlevelled := by
  unfold Arguments.ofWords
  rw [classifyAll_append h hws.separator_not_mem, classifyAll_append h hws.separator_not_mem,
    classifyAll_levelWord, classifyAll_levelWord]
  cases classifyAll .main words with
  | error e => rfl
  | ok vs =>
    refine bind_alike (hws.alike x y vs {} {} rfl) fun r s hrs => ?_
    obtain ⟨harguments, hunknown⟩ := Read.unlevelled_eq_iff.mp hrs
    rw [hunknown]
    split
    · exact congrArg Except.ok harguments
    · rfl

/-! ## Runs -/

theorem turn_unlevelled (p : Scene) (a : Arguments) : turn p a.unlevelled = turn p a := rfl

/-- No command looks at the level. -/
theorem run_unlevelled (p : Scene) (a : Arguments) : run p a.unlevelled = run p a := rfl

/-- Two runs whose words differ in a level, which stands where the main form reads it, write the same
output, end in the same way and come to an end of their input in the same way. Either both stop at
their words and say the same about it, or both run a command that shows the same prompts, takes the
same answers and makes the same notes and the same complaint for whatever answers, and they differ
in which of the notes are admitted. -/
theorem program_level (p : Scene) {pre : List Text} {ws : List Word}
    (hpre : classifyAll .main pre = .ok ws) (hws : Leading ws) (x y : Text) (words : List Text)
    (input : Text) :
    let v := program p (pre ++ levelWord x :: words) input
    let w := program p (pre ++ levelWord y :: words) input
    v.output = w.output ∧ v.result = w.result ∧ v.unanswered = w.unanswered ∧
      ((∃ stop, Arguments.ofWords (pre ++ levelWord x :: words) = .error stop ∧
          Arguments.ofWords (pre ++ levelWord y :: words) = .error stop ∧ v.errors = w.errors) ∨
        ∃ a b, Arguments.ofWords (pre ++ levelWord x :: words) = .ok a ∧
          Arguments.ofWords (pre ++ levelWord y :: words) = .ok b ∧
          (∀ seed answers, turn p a seed answers = turn p b seed answers) ∧
          (∀ answers, run p a answers = run p b answers) ∧
          ∃ notes complaint, v.errors = (journal p a).text notes ++ complaint ∧
            w.errors = (journal p b).text notes ++ complaint) := by
  intro v w
  have halike := ofWords_alike hpre hws x y words
  cases hx : Arguments.ofWords (pre ++ levelWord x :: words) with
  | error stop =>
    rw [hx] at halike
    have hy := map_eq_error.mp halike.symm
    have hvw : v = w := by simp only [v, w, program, hx, hy]
    rw [hvw]
    exact ⟨rfl, rfl, rfl, .inl ⟨stop, rfl, hy, rfl⟩⟩
  | ok a =>
    rw [hx] at halike
    obtain ⟨b, hy, hb⟩ := map_eq_ok.mp halike.symm
    have hturn : turn p a = turn p b := by rw [← turn_unlevelled p a, ← hb, turn_unlevelled]
    have hrun : run p a = run p b := by rw [← run_unlevelled p a, ← hb, run_unlevelled]
    have hv : v = _ := program_of_arguments p hx input
    have hw : w = _ := program_of_arguments p hy input
    rw [hv, hw, hrun]
    exact ⟨rfl, rfl, rfl, .inr ⟨a, b, rfl, hy, fun seed answers => by rw [hturn],
      fun answers => by rw [hrun], _, _, rfl, rfl⟩⟩

def noStories : Scene :=
  { root := Path.ofText ['/']
    tree := { entries := [([['s']], .directory)] }
    settings := { directory := ['s'] } }

/-- A check with a level in front that is overruled: by one that admits little, and by a name that is
none. -/
theorem program_level_check :
    let pre : List Text := ["--log-level".toList, "Debug".toList]
    (∃ ws, classifyAll .main pre = .ok ws ∧ Leading ws) ∧
      Arguments.ofWords (pre ++ [levelWord "fatal", "check".toList]) =
        .ok { command := some .check, logLevel := some "fatal".toList } ∧
      (program noStories (pre ++ [levelWord "fatal", "check".toList]) []).output =
        (program noStories (pre ++ [levelWord "??", "check".toList]) []).output ∧
      (program noStories (pre ++ [levelWord "fatal", "check".toList]) []).result =
        (program noStories (pre ++ [levelWord "??", "check".toList]) []).result := by
  intro pre
  have hpre : classifyAll .main pre = .ok [
      .flag "--log-level".toList (some ⟨.logLevel, "--log-level", none⟩),
      .plain "Debug".toList] := rfl
  have hleading : Leading [
      .flag "--log-level".toList (some ⟨.logLevel, "--log-level", none⟩),
      .plain "Debug".toList] := .value rfl rfl .nil
  obtain ⟨houtput, hresult, -⟩ :=
    program_level noStories hpre hleading "fatal" "??" ["check".toList] []
  exact ⟨⟨_, hpre, hleading⟩, by rfl, houtput, hresult⟩

end StoryBlanks.Command
