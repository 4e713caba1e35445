import StoryBlanks.Command.Run
import StoryBlanks.Proofs.Game.Play

/-!
# How a play ends

A play looks at its story first, then at the template, then at the width, and only then asks for
words; whatever fails first ends it. Main statement: a play has the exit code zero exactly if
nothing fails, and then it has written its prompts and the story; otherwise it has written the
prompts that were shown and what is to be said of the first failure.
-/
namespace StoryBlanks

theorem Answer.isAbandoned_ending (answers : List Answer) :
    Command.isAbandoned (.round (ending answers)) = true := by
  fun_induction ending answers with
  | case1 w answers ih => exact ih
  | case2 answers => rfl
  | case3 => rfl

namespace Command

open Result Answer

/-! ## What a play looks at -/

/-- The seed that is asked for, or one that chance gives. There is none where a seed is asked for and
not given. -/
def seed? (p : Scene) (a : Arguments) : Option Int := a.seed.getD (some p.chance)

def chosen (p : Scene) (a : Arguments) (seed : Int) : Noted SourceFailure Story :=
  match a.story with
  | some (c :: cs) => liftM ((library p a).load p.tree (Path.ofText (c :: cs)) none)
  | _ => ((library p a).pick p.tree (Generator.ofSeed seed)).1

/-- The width of the settings is in force only where no other one is asked for. -/
def WidthInForce (p : Scene) (a : Arguments) (n : Int) : Prop :=
  a.width = some (some n) ∨ a.width = none ∧ p.settings.lineWidth = n

def prompts (p : Scene) (ls : List Text) : List Text :=
  ls.map (Text.replace Round.slot · p.settings.promptFormat)

/-- All that a play needs, apart from answers. -/
structure Ready (p : Scene) (a : Arguments) (seed : Int) (s : Story) (ls : List Text) (n : Nat) :
    Prop where
  read : (chosen p a seed).result = .ok s
  wellFormed : Template.labels s.template = .ok ls
  width : WidthInForce p a n
  positive : 0 < n

/-- What fails first, the prompts that are shown before, and what is said of it. -/
inductive Stops (p : Scene) (a : Arguments) (seed : Int) (answers : List Answer) :
    Game.Failure → List Text → Text → Prop where
  | source {e : SourceFailure} (unread : (chosen p a seed).result = .error e) :
      Stops p a seed answers (.source e) [] ("Error: " ++ e.message ++ ['\n'])
  | template {s : Story} {e : Template.Unmatched} (read : (chosen p a seed).result = .ok s)
      (malformed : Template.labels s.template = .error e) :
      Stops p a seed answers (.unmatched e) [] ("Error: " ++ e.message ++ ['\n'])
  | width {s : Story} {ls : List Text} (read : (chosen p a seed).result = .ok s)
      (wellFormed : Template.labels s.template = .ok ls)
      (invalid : ∀ n : Nat, 0 < n → ¬ WidthInForce p a n) :
      Stops p a seed answers (.round (.width ⟨lineWidth p a⟩)) []
        ("Error: " ++ Width.Invalid.message ⟨lineWidth p a⟩ ++ ['\n'])
  | answers {s : Story} {ls : List Text} {n : Nat} (ready : Ready p a seed s ls n)
      (short : (words answers).length < ls.length) :
      Stops p a seed answers (.round (ending answers))
        (prompts p (ls.take ((words answers).length + 1))) "\nRound abandoned.\n"

variable {p : Scene} {a : Arguments} {answers : List Answer} {seed : Int}

theorem runPlay_of_seed (h : seed? p a = some seed) (answers : List Answer) :
    runPlay p a answers = playWith p a seed answers := by
  unfold seed? at h
  unfold runPlay
  match hseed : a.seed with
  | none =>
    rw [hseed] at h
    cases h
    rfl
  | some (some n) =>
    rw [hseed] at h
    cases h
    rfl
  | some none =>
    rw [hseed] at h
    cases h

theorem runPlay_of_noSeed (h : seed? p a = none) (answers : List Answer) :
    runPlay p a answers = { left := answers, result := .error .noSeed } := by
  unfold seed? at h
  unfold runPlay
  match hseed : a.seed with
  | none =>
    rw [hseed] at h
    cases h
  | some (some n) =>
    rw [hseed] at h
    cases h
  | some none => rfl

theorem lineWidth_eq_int {n : Int} : lineWidth p a = .int n ↔ WidthInForce p a n := by
  unfold lineWidth WidthInForce
  match a.width with
  | none => simp
  | some none => simp
  | some (some m) => simp

theorem turn_eq (p : Scene) (a : Arguments) (seed : Int) (answers : List Answer) :
    turn p a seed answers = Round.Turn.after ((chosen p a seed).mapError .source) answers
      (Game.play · ⟨lineWidth p a, p.settings.promptFormat⟩ answers) := by
  unfold turn chosen
  match a.story with
  | none => rfl
  | some [] => rfl
  | some (c :: cs) => rfl

theorem turn_of_read {s : Story} (h : (chosen p a seed).result = .ok s) (answers : List Answer) :
    ∃ notes, turn p a seed answers =
      { Game.play s ⟨lineWidth p a, p.settings.promptFormat⟩ answers with notes } := by
  have hread : ((chosen p a seed).mapError Game.Failure.source).result = .ok s :=
    mapError_eq_ok.mpr h
  rw [turn_eq, Round.Turn.after_of_ok hread]
  exact ⟨_, rfl⟩

/-! ## What comes of it -/

/-- Whatever an operation looks at fails, or nothing does. -/
theorem stops_or_ready (p : Scene) (a : Arguments) (seed : Int) (answers : List Answer) :
    (∃ e shown said, Stops p a seed answers e shown said) ∨
      ∃ s ls n, Ready p a seed s ls n ∧ ls.length ≤ (words answers).length := by
  cases hread : (chosen p a seed).result with
  | error e => exact .inl ⟨_, _, _, .source hread⟩
  | ok s =>
    cases hls : Template.labels s.template with
    | error e => exact .inl ⟨_, _, _, .template hread hls⟩
    | ok ls =>
      by_cases hwidth : ∃ n : Nat, 0 < n ∧ WidthInForce p a n
      · obtain ⟨n, hn, hforce⟩ := hwidth
        have hready : Ready p a seed s ls n := ⟨hread, hls, hforce, hn⟩
        by_cases hlen : ls.length ≤ (words answers).length
        · exact .inr ⟨s, ls, n, hready, hlen⟩
        · exact .inl ⟨_, _, _, .answers hready (Nat.lt_of_not_le hlen)⟩
      · have hinvalid : ∀ n : Nat, 0 < n → ¬ WidthInForce p a n :=
          fun n hn hforce => hwidth ⟨n, hn, hforce⟩
        exact .inl ⟨_, _, _, .width hread hls hinvalid⟩

theorem turn_of_stops {e : Game.Failure} {shown : List Text} {said : Text}
    (h : Stops p a seed answers e shown said) :
    ∃ notes left, turn p a seed answers = { prompts := shown, notes, left, result := .error e } := by
  cases h with
  | @source e unread =>
    have hunread : ((chosen p a seed).mapError Game.Failure.source).result = .error (.source e) :=
      mapError_eq_error.mpr ⟨e, unread, rfl⟩
    rw [turn_eq, Round.Turn.after_of_error hunread]
    exact ⟨_, _, rfl⟩
  | template read malformed =>
    obtain ⟨notes, hturn⟩ := turn_of_read read answers
    obtain ⟨more, hplay⟩ :=
      Game.play_unmatched malformed ⟨lineWidth p a, p.settings.promptFormat⟩ answers
    rw [hturn, hplay]
    exact ⟨_, _, rfl⟩
  | width read wellFormed invalid =>
    obtain ⟨notes, hturn⟩ := turn_of_read read answers
    have hinvalid : ∀ n : Nat, 0 < n → lineWidth p a ≠ .int n :=
      fun n hn he => invalid n hn (lineWidth_eq_int.mp he)
    obtain ⟨more, hplay⟩ :=
      Game.play_invalid wellFormed hinvalid p.settings.promptFormat answers
    rw [hturn, hplay]
    exact ⟨_, _, rfl⟩
  | answers ready short =>
    obtain ⟨notes, hturn⟩ := turn_of_read ready.read answers
    obtain ⟨more, left, hplay⟩ :=
      Game.play_short ready.wellFormed short ready.positive p.settings.promptFormat
    rw [hturn, lineWidth_eq_int.mpr ready.width, hplay]
    exact ⟨_, _, rfl⟩

theorem turn_of_ready {s : Story} {ls : List Text} {n : Nat} (h : Ready p a seed s ls n)
    (hlen : ls.length ≤ (words answers).length) :
    ∃ filled notes, Template.fill s.template ((words answers).take ls.length) = .ok filled ∧
      turn p a seed answers =
        { prompts := prompts p ls
          printed := [[], Wrap.wrap n filled]
          notes
          left := answers.drop ls.length
          result := .ok (Wrap.wrap n filled) } := by
  obtain ⟨notes, hturn⟩ := turn_of_read h.read answers
  obtain ⟨filled, more, hfilled, hplay⟩ :=
    Game.play_words h.wellFormed hlen h.positive p.settings.promptFormat
  refine ⟨filled, notes, hfilled, ?_⟩
  rw [hturn, lineWidth_eq_int.mpr h.width, hplay]
  rfl

theorem playWith_of_ok {text : Text} (h : (turn p a seed answers).result = .ok text) :
    playWith p a seed answers =
      { output := (turn p a seed answers).prompts.flatten ++
          (turn p a seed answers).printed.flatMap (· ++ ['\n'])
        notes := (turn p a seed answers).notes
        left := (turn p a seed answers).left
        result := .ok 0 } := by
  simp only [playWith, h]

/-- What is said of a failure is the same for all that do not come from the player. -/
theorem Stops.said_eq {e : Game.Failure} {shown : List Text} {said : Text}
    (h : Stops p a seed answers e shown said) :
    said = if isAbandoned e then "\nRound abandoned.\n".toList else complaint e.message := by
  cases h with
  | source => rfl
  | template => rfl
  | width => rfl
  | answers => rw [if_pos (isAbandoned_ending answers)]

/-- Breaking off is among the things that a play expects. -/
theorem isReported_of_isAbandoned {e : Game.Failure} (h : isAbandoned e = true) :
    isReported e = true := by
  cases e with
  | source cause => cases h
  | round cause => rfl

/-- Only what keeps a story from being read may go unreported. -/
theorem Stops.isReported_of_read {e : Game.Failure} {shown : List Text} {said : Text} {s : Story}
    (h : Stops p a seed answers e shown said) (hread : (chosen p a seed).result = .ok s) :
    isReported e = true := by
  cases h with
  | source unread =>
    rw [hread] at unread
    cases unread
  | template => rfl
  | width => rfl
  | answers => rfl

/-- What stops a play is reported, or it gets out; the prompts before it have been shown either way.
-/
theorem playWith_of_stops {e : Game.Failure} {shown : List Text} {said : Text}
    (h : Stops p a seed answers e shown said) :
    (playWith p a seed answers).output = shown.flatten ∧
      (isReported e = true → (playWith p a seed answers).result = .ok 1 ∧
        (playWith p a seed answers).complaint = said) ∧
      (isReported e = false → (playWith p a seed answers).result = .error (.game e)) := by
  obtain ⟨notes, left, hturn⟩ := turn_of_stops h
  have hsaid := h.said_eq
  cases habandoned : isAbandoned e with
  | true =>
    have hreported := isReported_of_isAbandoned habandoned
    simp [playWith, hturn, hsaid, habandoned, hreported]
  | false =>
    cases hreported : isReported e with
    | true => simp [playWith, hturn, hsaid, habandoned, hreported]
    | false => simp [playWith, hturn, habandoned, hreported]

/-- With words enough, a play that is ready shows its prompts and the wrapped story. -/
theorem playWith_of_ready {s : Story} {ls : List Text} {n : Nat} (h : Ready p a seed s ls n)
    (hlen : ls.length ≤ (words answers).length) :
    ∃ filled notes, Template.fill s.template ((words answers).take ls.length) = .ok filled ∧
      playWith p a seed answers =
        { output := (prompts p ls).flatten ++ '\n' :: (Wrap.wrap n filled ++ ['\n'])
          notes
          left := answers.drop ls.length
          result := .ok 0 } := by
  obtain ⟨filled, notes, hfilled, hturn⟩ := turn_of_ready h hlen
  have hresult : (turn p a seed answers).result = .ok (Wrap.wrap n filled) := by rw [hturn]
  refine ⟨filled, notes, hfilled, ?_⟩
  rw [playWith_of_ok hresult, hturn]
  simp

/-! ## Codes -/

/-- A play ends well exactly if it is ready and has a word for every blank. -/
theorem playWith_eq_zero : (playWith p a seed answers).result = .ok 0 ↔
    ∃ s ls n, Ready p a seed s ls n ∧ ls.length ≤ (words answers).length := by
  constructor
  · intro h
    rcases stops_or_ready p a seed answers with ⟨e, shown, said, hstops⟩ | hready
    · exfalso
      obtain ⟨-, hreported, hother⟩ := playWith_of_stops hstops
      cases he : isReported e with
      | true => simp [(hreported he).1] at h
      | false => simp [hother he] at h
    · exact hready
  · rintro ⟨s, ls, n, hready, hlen⟩
    obtain ⟨filled, notes, -, hplay⟩ := playWith_of_ready hready hlen
    rw [hplay]

theorem playWith_ne_zero {code : Nat} (hcode : code ≠ 0) :
    (playWith p a seed answers).result = .ok code ↔
      code = 1 ∧ ∃ e shown said, Stops p a seed answers e shown said ∧ isReported e = true := by
  constructor
  · intro h
    rcases stops_or_ready p a seed answers with ⟨e, shown, said, hstops⟩ | ⟨s, ls, n, hready, hlen⟩
    · obtain ⟨-, hreported, hother⟩ := playWith_of_stops hstops
      cases he : isReported e with
      | true =>
        rw [(hreported he).1, Except.ok.injEq] at h
        exact ⟨h.symm, e, shown, said, hstops, he⟩
      | false => simp [hother he] at h
    · obtain ⟨filled, notes, -, hplay⟩ := playWith_of_ready hready hlen
      rw [hplay, Except.ok.injEq] at h
      exact absurd h.symm hcode
  · rintro ⟨rfl, e, shown, said, hstops, he⟩
    exact ((playWith_of_stops hstops).2.1 he).1

theorem runPlay_eq_ok {code : Nat} : (runPlay p a answers).result = .ok code ↔
    ∃ seed, seed? p a = some seed ∧ (playWith p a seed answers).result = .ok code := by
  cases hseed : seed? p a with
  | none => simp [runPlay_of_noSeed hseed]
  | some seed => simp [runPlay_of_seed hseed]

theorem runPlay_code {code : Nat} (h : (runPlay p a answers).result = .ok code) :
    code = 0 ∨ code = 1 := by
  obtain ⟨seed, -, hplay⟩ := runPlay_eq_ok.mp h
  by_cases hcode : code = 0
  · exact .inl hcode
  · exact .inr ((playWith_ne_zero hcode).mp hplay).1

/-- A play ends with the code zero exactly if its story is read and well formed, the width in force
is positive and there is a word for every blank. Then it has written the prompts, an empty line and
the filled and wrapped story. It ends with the code one exactly if one of these fails for a reason
that is reported, and all reasons are once the story is read. Then it has written the prompts that
were shown, which are none unless only words were missing, and it complains of the first failure. -/
theorem runPlay_ends (p : Scene) (a : Arguments) (answers : List Answer) :
    (∀ code, (runPlay p a answers).result = .ok code → code = 0 ∨ code = 1) ∧
    ((runPlay p a answers).result = .ok 0 ↔ ∃ seed s ls n, seed? p a = some seed ∧
      Ready p a seed s ls n ∧ ls.length ≤ (words answers).length) ∧
    (∀ seed s ls n, seed? p a = some seed → Ready p a seed s ls n →
      ls.length ≤ (words answers).length →
      ∃ filled, Template.fill s.template ((words answers).take ls.length) = .ok filled ∧
        (runPlay p a answers).output =
          (prompts p ls).flatten ++ '\n' :: (Wrap.wrap n filled ++ ['\n']) ∧
        (runPlay p a answers).complaint = [] ∧
        (runPlay p a answers).left = answers.drop ls.length) ∧
    ((runPlay p a answers).result = .ok 1 ↔ ∃ seed e shown said, seed? p a = some seed ∧
      Stops p a seed answers e shown said ∧ isReported e = true) ∧
    (∀ seed s, seed? p a = some seed → (chosen p a seed).result = .ok s →
      ∃ code, (runPlay p a answers).result = .ok code) ∧
    ∀ seed e shown said, seed? p a = some seed → Stops p a seed answers e shown said →
      isReported e = true →
      (runPlay p a answers).output = shown.flatten ∧ (runPlay p a answers).complaint = said := by
  refine ⟨fun code => runPlay_code, ?_, fun seed s ls n hseed hready hlen => ?_, ?_,
    fun seed s hseed hread => ?_, fun seed e shown said hseed hstops he => ?_⟩
  · rw [runPlay_eq_ok]
    simp only [playWith_eq_zero, exists_and_left]
  · obtain ⟨filled, notes, hfilled, hplay⟩ := playWith_of_ready hready hlen
    rw [runPlay_of_seed hseed, hplay]
    exact ⟨filled, hfilled, rfl, rfl, rfl⟩
  · rw [runPlay_eq_ok]
    simp only [playWith_ne_zero Nat.one_ne_zero, true_and, exists_and_left]
  · rw [runPlay_of_seed hseed]
    rcases stops_or_ready p a seed answers with ⟨e, shown, said, hstops⟩ | hready
    · exact ⟨1, ((playWith_of_stops hstops).2.1 (hstops.isReported_of_read hread)).1⟩
    · exact ⟨0, playWith_eq_zero.mpr hready⟩
  · obtain ⟨houtput, hreported, -⟩ := playWith_of_stops hstops
    rw [runPlay_of_seed hseed]
    exact ⟨houtput, (hreported he).2⟩

def twoBlanks : Scene :=
  { root := Path.ofText ['/']
    tree :=
      { entries := [([['s']], .directory), ([['s'], ['a']], .file [123, 120, 125, 123, 121, 125])] }
    settings := { directory := ['s'], promptFormat := ['?'] } }

/-- The player breaks off at the second blank; and a width of zero is not made up for by the width
of the settings. -/
theorem runPlay_ends_twoBlanks :
    (runPlay twoBlanks { story := some ['a'] } [.word ['o'], .quit]).result = .ok 1 ∧
      (runPlay twoBlanks { story := some ['a'] } [.word ['o'], .quit]).output = ['?', '?'] ∧
      (runPlay twoBlanks { story := some ['a'] } [.word ['o'], .quit]).complaint =
        "\nRound abandoned.\n".toList ∧
      (runPlay twoBlanks { story := some ['a'], width := some (some 0) } []).result = .ok 1 ∧
      (runPlay twoBlanks { story := some ['a'], width := some (some 0) } []).output = [] ∧
      (runPlay twoBlanks { story := some ['a'], width := some (some 0) } []).complaint =
        "Error: " ++ Width.Invalid.message ⟨.int 0⟩ ++ ['\n'] := by
  have hlabels : Template.labels ['{', 'x', '}', '{', 'y', '}'] = .ok [['x'], ['y']] := by cbv
  have htext : Library.read twoBlanks.tree (Path.ofText ['/', 's', '/', 'a']) =
      .ok ['{', 'x', '}', '{', 'y', '}'] := by cbv
  have hread (width : Option (Option Int)) :
      (chosen twoBlanks { story := some ['a'], width } 0).result =
        .ok ⟨Path.ofText ['/', 's', '/', 'a'],
          Library.titleOf none (Path.ofText ['/', 's', '/', 'a']),
          ['{', 'x', '}', '{', 'y', '}']⟩ := by
    have hload : (chosen twoBlanks { story := some ['a'], width } 0).result =
        (library twoBlanks { story := some ['a'], width }).load twoBlanks.tree
          (Path.ofText ['a']) none := rfl
    have hpath : (library twoBlanks { story := some ['a'], width }).directory /
        Path.ofText ['a'] = Path.ofText ['/', 's', '/', 'a'] := by cbv
    rw [hload, Library.load_eq, hpath, htext]
    rfl
  have hready : Ready twoBlanks { story := some ['a'] } 0 _ [['x'], ['y']] 70 :=
    ⟨hread none, hlabels, .inr ⟨rfl, rfl⟩, by decide⟩
  have hinvalid : ∀ n : Nat, 0 < n →
      ¬ WidthInForce twoBlanks { story := some ['a'], width := some (some 0) } n := by
    rintro n hn (h | ⟨h, -⟩)
    · have hzero : (0 : Int) = n := by simpa using h
      omega
    · cases h
  have hquit : Stops twoBlanks { story := some ['a'] } 0 [.word ['o'], .quit] _ _ _ :=
    .answers hready (by decide)
  have hzero : Stops twoBlanks { story := some ['a'], width := some (some 0) } 0 [] _ _ _ :=
    .width (hread (some (some 0))) hlabels hinvalid
  obtain ⟨-, -, -, hone, -, hsaid⟩ :=
    runPlay_ends twoBlanks { story := some ['a'] } [.word ['o'], .quit]
  obtain ⟨-, -, -, hone', -, hsaid'⟩ :=
    runPlay_ends twoBlanks { story := some ['a'], width := some (some 0) } []
  have hcode := hone.mpr ⟨0, _, _, _, rfl, hquit, rfl⟩
  have hcode' := hone'.mpr ⟨0, _, _, _, rfl, hzero, rfl⟩
  obtain ⟨houtput, hcomplaint⟩ := hsaid 0 _ _ _ rfl hquit rfl
  obtain ⟨houtput', hcomplaint'⟩ := hsaid' 0 _ _ _ rfl hzero rfl
  exact ⟨hcode, houtput, hcomplaint, hcode', houtput', hcomplaint'⟩

end Command
end StoryBlanks
