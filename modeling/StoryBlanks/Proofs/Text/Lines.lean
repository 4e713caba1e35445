import StoryBlanks.Text.Basic
import Mathlib.Data.List.Infix

/-!
# Lines

The lines of a text are its pieces between newlines. A text is its closed lines, each with the
newline behind it, and one open line at the end; and every stretch of it that has no newline lies
within one line.
-/
namespace StoryBlanks.Text

/-- Splitting at a separator is the splitting of the standard library. -/
theorem splitOn_eq (sep : Char) (t : Text) : splitOn sep t = List.splitOn sep t := by
  induction t with
  | nil => rfl
  | cons c t ih =>
    rw [splitOn, List.splitOn_cons_eq_if_modifyHead, ih]
    by_cases hc : c = sep
    · simp [hc]
    · have hne := List.splitOn_ne_nil sep t
      cases hs : List.splitOn sep t with
      | nil => exact absurd hs hne
      | cons piece pieces => simp [hc]

theorem exists_splitOn (sep : Char) (t : Text) : ∃ piece pieces, splitOn sep t = piece :: pieces := by
  have hne : splitOn sep t ≠ [] := by
    rw [splitOn_eq]
    exact List.splitOn_ne_nil sep t
  exact List.exists_cons_of_ne_nil hne

/-- What has no separator stands in front of the first piece. -/
theorem splitOn_append_inline {sep : Char} {s t piece : Text} {pieces : List Text} (hs : sep ∉ s)
    (ht : splitOn sep t = piece :: pieces) : splitOn sep (s ++ t) = (s ++ piece) :: pieces := by
  induction s with
  | nil => exact ht
  | cons c s ih =>
    rw [List.mem_cons, not_or] at hs
    rw [List.cons_append, splitOn, if_neg (Ne.symm hs.1), ih hs.2]
    rfl

theorem joinWith_cons (sep piece : Text) (pieces : List Text) :
    joinWith sep (piece :: pieces) = piece ++ pieces.flatMap (sep ++ ·) := by
  induction pieces generalizing piece with
  | nil => simp [joinWith]
  | cons next pieces ih =>
    have h := ih next
    unfold joinWith at h ⊢
    rw [List.intersperse_cons_cons, List.flatten_cons, List.flatten_cons, h, List.flatMap_cons,
      List.append_assoc]

/-- Lines one after another, each with a newline behind it. -/
def closedLines (lines : List Text) : Text := lines.flatMap (· ++ ['\n'])

@[simp] theorem closedLines_nil : closedLines [] = [] := rfl

@[simp] theorem closedLines_cons (line : Text) (lines : List Text) :
    closedLines (line :: lines) = line ++ '\n' :: closedLines lines := by
  simp [closedLines]

theorem closedLines_snoc (lines : List Text) (line : Text) :
    closedLines (lines ++ [line]) = closedLines lines ++ (line ++ ['\n']) := by
  simp [closedLines]

theorem splitOn_line {line : Text} (h : '\n' ∉ line) : splitOn '\n' line = [line] := by
  rw [splitOn_eq, List.splitOn_eq_singleton h]

/-- The lines of a text that is written line by line are the lines that were written. -/
theorem splitOn_closedLines {lines : List Text} (h : ∀ l ∈ lines, '\n' ∉ l) (t : Text) :
    splitOn '\n' (closedLines lines ++ t) = lines ++ splitOn '\n' t := by
  simp only [splitOn_eq]
  induction lines with
  | nil => rfl
  | cons line lines ih =>
    have hline : '\n' ∉ line := h line (by simp)
    have hrest := ih (fun l hl => h l (by simp [hl]))
    rw [closedLines_cons, List.append_assoc, List.cons_append,
      List.splitOn_append_cons_self_of_not_mem hline, hrest, List.cons_append]

/-- Every line stands in the text behind the closed lines before it, and ends where the text does
or at a newline. -/
theorem eq_of_splitOn {t line : Text} {before after : List Text}
    (h : splitOn '\n' t = before ++ line :: after) :
    ∃ rest, t = closedLines before ++ line ++ rest ∧ ∀ c ∈ rest.head?, c = '\n' := by
  have ht : ['\n'].intercalate (before ++ line :: after) = t := by
    rw [← h, splitOn_eq, List.intercalate_splitOn]
  subst ht
  clear h
  induction before with
  | nil =>
    cases after with
    | nil => exact ⟨[], by simp, by simp⟩
    | cons next after =>
      refine ⟨'\n' :: ['\n'].intercalate (next :: after), ?_, by simp⟩
      simp [List.intercalate_cons_cons]
  | cons first before ih =>
    obtain ⟨rest, hrest, hhead⟩ := ih
    refine ⟨rest, ?_, hhead⟩
    rw [List.cons_append, List.intercalate_cons_of_ne_nil (by simp), hrest]
    simp

theorem sep_not_mem_of_mem_splitOn {sep : Char} {t piece : Text} (h : piece ∈ splitOn sep t) :
    sep ∉ piece := by
  induction t generalizing piece with
  | nil =>
    simp only [splitOn, List.mem_singleton] at h
    simp [h]
  | cons c t ih =>
    rw [splitOn] at h
    split at h
    · rcases List.mem_cons.mp h with rfl | h
      · simp
      · exact ih h
    · next hc =>
      split at h
      · simp only [List.mem_singleton] at h
        simpa [h] using Ne.symm hc
      · next first pieces hp =>
        rcases List.mem_cons.mp h with rfl | h
        · have hfirst : sep ∉ first := ih (by simp [hp])
          simpa [hfirst] using Ne.symm hc
        · exact ih (by simp [hp, h])

/-- A beginning of a text that has no newline is a beginning of the first line. -/
theorem prefix_first_line {z t : Text} (hz : '\n' ∉ z) (h : z <+: t) :
    ∃ line lines, splitOn '\n' t = line :: lines ∧ z <+: line := by
  induction t generalizing z with
  | nil => exact ⟨[], [], rfl, h⟩
  | cons c t ih =>
    cases z with
    | nil =>
      obtain ⟨line, lines, hs⟩ := exists_splitOn '\n' (c :: t)
      exact ⟨line, lines, hs, List.nil_prefix⟩
    | cons d z =>
      obtain ⟨rfl, htail⟩ := List.cons_prefix_cons.mp h
      simp only [List.mem_cons, not_or] at hz
      obtain ⟨line, lines, hs, hl⟩ := ih hz.2 htail
      refine ⟨d :: line, lines, ?_, List.cons_prefix_cons.mpr ⟨rfl, hl⟩⟩
      simp [splitOn, hs, Ne.symm hz.1]

/-- A stretch of a text that has no newline lies within one line. -/
theorem exists_line_around {z t : Text} (hz : '\n' ∉ z) (h : z <:+: t) :
    ∃ line ∈ splitOn '\n' t, z <:+: line := by
  induction t with
  | nil => exact ⟨[], by simp [splitOn], h⟩
  | cons c t ih =>
    rcases List.infix_cons_iff.mp h with h | h
    · obtain ⟨line, lines, hs, hl⟩ := prefix_first_line hz h
      exact ⟨line, by simp [hs], hl.isInfix⟩
    · obtain ⟨line, hmem, hl⟩ := ih h
      rw [splitOn]
      split
      · exact ⟨line, by simp [hmem], hl⟩
      · split
        · next hs => simp [hs] at hmem
        · next piece pieces hs =>
          rw [hs] at hmem
          rcases List.mem_cons.mp hmem with rfl | hmem
          · exact ⟨c :: line, by simp, hl.trans (List.suffix_cons c line).isInfix⟩
          · exact ⟨line, by simp [hmem], hl⟩

theorem infix_of_mem_splitOn {t line : Text} (h : line ∈ splitOn '\n' t) : line <:+: t := by
  obtain ⟨before, after, hs⟩ := List.append_of_mem h
  obtain ⟨rest, ht, -⟩ := eq_of_splitOn hs
  exact ⟨closedLines before, rest, ht.symm⟩

end StoryBlanks.Text
