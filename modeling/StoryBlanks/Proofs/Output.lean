import StoryBlanks.Output
import Mathlib.Data.List.Forall2

/-!
# Lines that are written

Main statements: of some lines an output writes all, or those before the first one that it refuses;
and the usual output refuses a line exactly if there is a surrogate in it.
-/
namespace StoryBlanks

namespace Text

variable {ns : List Nat}

theorem isSurrogate_of_mem_codes {cs : Text} {n : Nat} (h : n ∈ codes cs) :
    isSurrogate n = false := by
  obtain ⟨c, -, rfl⟩ := List.mem_map.mp h
  have hvalid : c.toNat < 0xD800 ∨ 0xDFFF < c.toNat ∧ c.toNat < 0x110000 := c.valid
  simp [isSurrogate]
  omega

theorem not_exists_isSurrogate_codes (cs : Text) : ¬ ∃ n ∈ codes cs, isSurrogate n := by
  rintro ⟨n, hn, h⟩
  rw [isSurrogate_of_mem_codes hn] at h
  cases h

theorem ofCodes?_eq_none : ofCodes? ns = none ↔ ∃ n ∈ ns, isSurrogate n := by
  induction ns with
  | nil => simp [ofCodes?]
  | cons n ns ih =>
    cases h : isSurrogate n with
    | true => simp [ofCodes?, h]
    | false => simp [ofCodes?, h, ih]

theorem Spelling.codes_within (before after : Text) (s : Spelling) :
    (s.within before after).codes = Text.codes before ++ s.codes ++ Text.codes after := by
  cases s with
  | text cs => simp [within, Spelling.codes, Text.codes]
  | broken ns => rfl

/-- What stands around a spelling adds no surrogates to it. -/
theorem Spelling.mem_codes_within {before after : Text} {s : Spelling} :
    (∃ n ∈ (s.within before after).codes, isSurrogate n) ↔ ∃ n ∈ s.codes, isSurrogate n := by
  rw [codes_within]
  simp only [List.mem_append, or_and_right, exists_or]
  rw [or_iff_left (not_exists_isSurrogate_codes after),
    or_iff_right (not_exists_isSurrogate_codes before)]

end Text

namespace Output

variable {o : Output} {lines told rest : List Text.Spelling} {line : Text.Spelling}
  {texts : List Text} {e : Unencodable}

/-- Each of the lines can be written, and is one of the texts then. -/
def Writes (o : Output) (lines : List Text.Spelling) (texts : List Text) : Prop :=
  List.Forall₂ (fun line text => o.write line = .ok text) lines texts

/-- All lines are taken, and each is followed by its newline. -/
theorem print_of_writes (h : o.Writes lines texts) :
    o.print lines = (texts.flatMap (· ++ ['\n']), none) := by
  induction h with
  | nil => rfl
  | @cons line text lines texts hline _ ih => simp [print, hline, ih]

/-- The lines in front of the refused one stay, and nothing behind it is looked at. -/
theorem print_of_refused (h : o.Writes told texts) (he : o.write line = .error e)
    (rest : List Text.Spelling) :
    o.print (told ++ line :: rest) = (texts.flatMap (· ++ ['\n']), some e) := by
  induction h with
  | nil => simp [print, he]
  | @cons first text told texts hfirst _ ih => simp [print, hfirst, ih]

/-- By induction on the lines: the first one is refused, or it is written and the others decide. -/
theorem writes_or_refuses (o : Output) (lines : List Text.Spelling) :
    (∃ texts, o.Writes lines texts) ∨ ∃ told texts line rest e,
      lines = told ++ line :: rest ∧ o.Writes told texts ∧ o.write line = .error e := by
  induction lines with
  | nil => exact .inl ⟨[], .nil⟩
  | cons first lines ih =>
    cases hfirst : o.write first with
    | error e => exact .inr ⟨[], [], first, lines, e, rfl, .nil, hfirst⟩
    | ok text =>
      rcases ih with ⟨texts, htexts⟩ | ⟨told, texts, line, rest, e, rfl, htold, he⟩
      · exact .inl ⟨text :: texts, .cons hfirst htexts⟩
      · exact .inr ⟨first :: told, text :: texts, line, rest, e, rfl, .cons hfirst htold, he⟩

/-- The usual output takes what has no surrogates, and nothing else. -/
theorem strict_refuses_iff {s : Text.Spelling} :
    (∃ e, strict.write s = .error e) ↔ ∃ n ∈ s.codes, Text.isSurrogate n := by
  cases s with
  | text cs =>
    have htaken : ¬ ∃ e, strict.write (.text cs) = .error e := by simp [strict]
    exact iff_of_false htaken (Text.not_exists_isSurrogate_codes cs)
  | broken ns =>
    rw [Text.Spelling.codes, ← Text.ofCodes?_eq_none]
    cases h : Text.ofCodes? ns with
    | none => simp [strict, h]
    | some cs => simp [strict, h]

/-- The line before is written, and nothing of the line with the pair. -/
example : strict.print [.text ['a'], .broken [0x62, 0xD83D, 0xDE00], .text ['c']] =
    (['a', '\n'], some ⟨1, [0xD83D, 0xDE00]⟩) := by decide

end Output
end StoryBlanks
