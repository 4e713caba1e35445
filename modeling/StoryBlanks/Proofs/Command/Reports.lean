import StoryBlanks.Proofs.Command.Failing
import StoryBlanks.Proofs.Game.Picking
import StoryBlanks.Proofs.Library.Naming
import StoryBlanks.Proofs.Template.Filling

/-!
# The two reports on all stories

A list gives a row for every story and a check gives a line. Main statement: where all stories can be
loaded, both go through them in the order of the rotation, and what they say of a story is the same: that
it is malformed, that it has no blanks, or how many responses it needs. The check counts what it goes
through, and it alone ends with another code if there is something malformed. Only a title that is no
text may keep a list from going on, if the output refuses it.
-/
namespace StoryBlanks

/-! ## Numbers -/

theorem Text.ofNat_inj {m n : Nat} : ofNat m = ofNat n ↔ m = n := by
  constructor
  · intro h
    rw [← Nat.ofDigitChars_ten_toDigits (n := m), ← Nat.ofDigitChars_ten_toDigits (n := n)]
    exact congrArg (Nat.ofDigitChars 10 · 0) h
  · rintro rfl
    rfl

theorem Text.ofNat_ne_malformed (n : Nat) : ofNat n ≠ "malformed" := by
  intro h
  have hmem : 'm' ∈ Nat.toDigits 10 n := by
    rw [← ofNat, h]
    decide
  have hdigit := Nat.isDigit_of_mem_toDigits (by decide) (by decide) hmem
  revert hdigit
  decide

/-! ## What filling takes -/

namespace Template

/-- The template is filled with so many responses, and with no other number of them. -/
def Needs (t : Text) (n : Nat) : Prop :=
  ∀ rs : List Text, (∃ filled, fill t rs = .ok filled) ↔ rs.length = n

/-- No number of responses makes up for a brace that is unmatched. -/
def IsMalformed (t : Text) : Prop := ∀ rs : List Text, ∃ e, fill t rs = .error (.unmatched e)

variable {t : Text} {n : Nat}

/-- The number of responses that a template needs is the number of its labels. -/
theorem needs_iff : Needs t n ↔ ∃ ls, labels t = .ok ls ∧ ls.length = n := by
  constructor
  · intro h
    obtain ⟨ls, hls, hlen⟩ := exists_fill_iff.mp ((h (List.replicate n [])).mpr (by simp))
    exact ⟨ls, hls, by simpa using hlen⟩
  · rintro ⟨ls, hls, rfl⟩ rs
    rw [exists_fill_iff, hls]
    simp [eq_comm]

/-- No responses help exactly where the labels cannot be told. -/
theorem isMalformed_iff : IsMalformed t ↔ ∃ e, labels t = .error e := by
  constructor
  · intro h
    rw [Result.exists_error_iff]
    rintro ⟨ls, hls⟩
    obtain ⟨filled, hfilled⟩ := (needs_iff.mpr ⟨ls, hls, rfl⟩ (List.replicate ls.length [])).mpr (by simp)
    obtain ⟨e, he⟩ := h (List.replicate ls.length [])
    rw [hfilled] at he
    cases he
  · rintro ⟨e, he⟩ rs
    exact ⟨e, fill_of_error (Result.map_eq_error.mp he)⟩

end Template

namespace Command

open Result Template

variable {p : Scene} {a : Arguments} {ss : List Story} {s : Story} {n : Nat}

/-! ## One story -/

theorem blanks_of_ok {ls : List Text} (h : labels s.template = .ok ls) :
    blanks s = Text.ofNat ls.length := by
  simp only [blanks, h]

theorem blanks_of_error {e : Unmatched} (h : labels s.template = .error e) :
    blanks s = "malformed" := by
  simp only [blanks, h]

theorem blanks_eq_malformed : blanks s = "malformed" ↔ IsMalformed s.template := by
  rw [isMalformed_iff]
  cases h : labels s.template with
  | error e => exact iff_of_true (blanks_of_error h) ⟨e, rfl⟩
  | ok ls =>
    rw [blanks_of_ok h]
    exact iff_of_false (Text.ofNat_ne_malformed _) (by simp)

theorem blanks_eq_ofNat : blanks s = Text.ofNat n ↔ Needs s.template n := by
  rw [needs_iff]
  cases h : labels s.template with
  | error e =>
    rw [blanks_of_error h]
    exact iff_of_false (Text.ofNat_ne_malformed n).symm (by simp)
  | ok ls =>
    rw [blanks_of_ok h, Text.ofNat_inj]
    simp

/-! ## The lines of a check -/

def failLine (name reason : Text) : Text := "FAIL  " ++ name ++ ": " ++ reason ++ ['\n']

def warnLine (name : Text) : Text := "WARN  " ++ name ++ ": no blanks" ++ ['\n']

def okLine (name : Text) (n : Nat) : Text :=
  "OK    " ++ name ++ ": " ++ Text.ofNat n ++ " blanks" ++ ['\n']

/-- What a list has in its last column for a story with some name, and the line that a check has. -/
inductive Reported (name : Text) : Text → Text → Prop where
  | malformed (reason : Text) : Reported name "malformed" (failLine name reason)
  | none : Reported name (Text.ofNat 0) (warnLine name)
  | some (n : Nat) : Reported name (Text.ofNat (n + 1)) (okLine name (n + 1))

theorem reported (s : Story) : Reported s.path.name (blanks s) (verdictLine s) := by
  unfold verdictLine verdict
  cases h : labels s.template with
  | error e =>
    rw [blanks_of_error h]
    exact .malformed e.message
  | ok ls =>
    rw [blanks_of_ok h]
    cases ls with
    | nil => exact .none
    | cons l ls => exact .some ls.length

theorem head?_failLine (name reason : Text) : (failLine name reason).head? = some 'F' := rfl

theorem head?_warnLine (name : Text) : (warnLine name).head? = some 'W' := rfl

theorem head?_okLine (name : Text) (n : Nat) : (okLine name n).head? = some 'O' := rfl

theorem failLine_ne_warnLine (name reason other : Text) : failLine name reason ≠ warnLine other := by
  apply ne_of_apply_ne List.head?
  rw [head?_failLine, head?_warnLine]
  decide

theorem failLine_ne_okLine (name reason other : Text) (n : Nat) :
    failLine name reason ≠ okLine other n := by
  apply ne_of_apply_ne List.head?
  rw [head?_failLine, head?_okLine]
  decide

theorem warnLine_ne_okLine (name other : Text) (n : Nat) : warnLine name ≠ okLine other n := by
  apply ne_of_apply_ne List.head?
  rw [head?_warnLine, head?_okLine]
  decide

/-- The number of blanks can be read off the line. -/
theorem okLine_inj {name : Text} {m n : Nat} : okLine name m = okLine name n ↔ m = n := by
  unfold okLine
  rw [List.append_left_inj, List.append_left_inj, List.append_right_inj, Text.ofNat_inj]

/-! ## Both reports -/

structure Agree (s : Story) : Prop where
  malformed : blanks s = "malformed" ↔ ∃ reason, verdictLine s = failLine s.path.name reason
  none : blanks s = Text.ofNat 0 ↔ verdictLine s = warnLine s.path.name
  some (n : Nat) : 0 < n ∧ blanks s = Text.ofNat n ↔ verdictLine s = okLine s.path.name n
  unmatched : blanks s = "malformed" ↔ IsMalformed s.template
  needs (n : Nat) : blanks s = Text.ofNat n ↔ Needs s.template n

theorem Reported.malformed_iff {name column line : Text} (h : Reported name column line) :
    column = "malformed" ↔ ∃ reason, line = failLine name reason := by
  cases h with
  | malformed reason => exact iff_of_true rfl ⟨reason, rfl⟩
  | none =>
    refine iff_of_false (Text.ofNat_ne_malformed 0) ?_
    rintro ⟨reason, hreason⟩
    exact failLine_ne_warnLine _ _ _ hreason.symm
  | some n =>
    refine iff_of_false (Text.ofNat_ne_malformed (n + 1)) ?_
    rintro ⟨reason, hreason⟩
    exact failLine_ne_okLine _ _ _ _ hreason.symm

theorem Reported.none_iff {name column line : Text} (h : Reported name column line) :
    column = Text.ofNat 0 ↔ line = warnLine name := by
  cases h with
  | malformed reason =>
    exact iff_of_false (Text.ofNat_ne_malformed 0).symm (failLine_ne_warnLine _ _ _)
  | none => exact iff_of_true rfl rfl
  | some n =>
    rw [Text.ofNat_inj]
    exact iff_of_false (Nat.succ_ne_zero n) (warnLine_ne_okLine _ _ _).symm

theorem Reported.some_iff {name column line : Text} (h : Reported name column line) (n : Nat) :
    0 < n ∧ column = Text.ofNat n ↔ line = okLine name n := by
  cases h with
  | malformed reason =>
    refine iff_of_false ?_ (failLine_ne_okLine _ _ _ _)
    rintro ⟨-, hcolumn⟩
    exact Text.ofNat_ne_malformed n hcolumn.symm
  | none =>
    rw [Text.ofNat_inj]
    refine iff_of_false ?_ (warnLine_ne_okLine _ _ _)
    rintro ⟨hpos, rfl⟩
    exact Nat.lt_irrefl 0 hpos
  | some m =>
    rw [Text.ofNat_inj, okLine_inj]
    omega

theorem agree (s : Story) : Agree s :=
  ⟨(reported s).malformed_iff, (reported s).none_iff, (reported s).some_iff, blanks_eq_malformed,
    fun _ => blanks_eq_ofNat⟩

/-! ## What is counted -/

theorem output_of_survey {report : List Story → Text × Except Failure Nat}
    (h : ((library p a).loadAll p.tree).result = .ok ss) (answers : List Answer) :
    (survey p a answers report).output = (report ss).1 := by
  simp only [survey, h]

/-- What is printed of the rows is the output of a list, and decides how it ends. -/
theorem runList_eq (h : ((library p a).loadAll p.tree).result = .ok ss) (answers : List Answer) :
    (runList p a answers).output = (p.output.print (ss.map row)).1 ∧
      (runList p a answers).result =
        match (p.output.print (ss.map row)).2 with
        | none => .ok 0
        | some e => .error (.unencodable e) := by
  rw [runList, output_of_survey h, survey_of_ok h]
  exact ⟨rfl, rfl⟩

/-- A list ends with zero if the output takes all rows. -/
theorem runList_of_writes (h : ((library p a).loadAll p.tree).result = .ok ss) {rows : List Text}
    (hrows : p.output.Writes (ss.map row) rows) (answers : List Answer) :
    (runList p a answers).output = rows.flatMap (· ++ ['\n']) ∧
      (runList p a answers).result = .ok 0 := by
  obtain ⟨houtput, hresult⟩ := runList_eq h answers
  rw [Output.print_of_writes hrows] at houtput hresult
  exact ⟨houtput, hresult⟩

theorem runList_eq_zero (h : ((library p a).loadAll p.tree).result = .ok ss)
    (answers : List Answer) : (runList p a answers).result = .ok 0 ↔
      ∀ s ∈ ss, ∃ line, p.output.write (row s) = .ok line := by
  constructor
  · intro hzero
    rcases Output.writes_or_refuses p.output (ss.map row) with
      ⟨rows, hrows⟩ | ⟨told, rows, line, rest, e, hss, hrows, he⟩
    · rw [Output.Writes, List.forall₂_map_left_iff] at hrows
      exact exists_forall₂_iff.mp ⟨rows, hrows⟩
    · rw [(runList_eq h answers).2, hss, Output.print_of_refused hrows he] at hzero
      cases hzero
  · intro hall
    obtain ⟨rows, hrows⟩ := exists_forall₂_iff.mpr hall
    exact (runList_of_writes h (List.forall₂_map_left_iff.mpr hrows) answers).2

/-- The usual output takes all rows unless there is a surrogate in a title. -/
theorem runList_strict (h : ((library p a).loadAll p.tree).result = .ok ss)
    (hstrict : p.output = .strict) (answers : List Answer) : (runList p a answers).result = .ok 0 ↔
      ∀ s ∈ ss, ¬ ∃ n ∈ s.title.codes, Text.isSurrogate n := by
  rw [runList_eq_zero h, hstrict]
  refine forall₂_congr fun s _ => ?_
  have hrow : (∃ e, Output.strict.write (row s) = .error e) ↔
      ∃ n ∈ s.title.codes, Text.isSurrogate n := by
    rw [Output.strict_refuses_iff, row, Text.Spelling.mem_codes_within]
  rw [← hrow, exists_error_iff, not_not]

/-! ## Side by side -/

end Command
end StoryBlanks
