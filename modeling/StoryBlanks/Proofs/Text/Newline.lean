import StoryBlanks.Text.Newline
import StoryBlanks.Proofs.Text.Replacing

/-!
# Line ends

Main statement: line ends are unified by putting a line feed first for every carriage return with a
line feed behind it, both together, and then for every carriage return that is left. So none is left in
the end.
-/
namespace StoryBlanks.Text

variable {c : Char}

def lineFed (c : Char) : Char := if c = '\r' then '\n' else c

theorem lineFed_ne (c : Char) : lineFed c ≠ '\r' := by
  unfold lineFed
  split
  · decide
  · assumption

/-- Pairs are replaced first, so that none of them makes two line feeds: by induction over what is read
together. -/
theorem unifyNewlines_eq (cs : Text) :
    unifyNewlines cs = (replace ['\r', '\n'] ['\n'] cs).map lineFed := by
  induction cs using unifyNewlines.induct with
  | case1 => rfl
  | case2 cs ih =>
    have hpair : replace ['\r', '\n'] ['\n'] ('\r' :: '\n' :: cs) =
        '\n' :: replace ['\r', '\n'] ['\n'] cs := replace_append (List.cons_ne_nil _ _) _ cs
    rw [unifyNewlines, hpair, List.map_cons, ← ih]
    rfl
  | case3 c cs hother ih =>
    have hc : ¬ ['\r', '\n'] <+: c :: cs := by
      intro hpre
      obtain ⟨hc, hcs⟩ := List.cons_prefix_cons.mp hpre
      obtain ⟨rest, rfl⟩ := hcs
      exact hother rest hc.symm rfl
    rw [replace_cons (List.cons_ne_nil _ _) hc, List.map_cons, ← ih, unifyNewlines]
    · rfl
    · exact hother

theorem not_mem_unifyNewlines (cs : Text) : '\r' ∉ unifyNewlines cs := by
  rw [unifyNewlines_eq]
  intro h
  obtain ⟨c, -, hc⟩ := List.mem_map.mp h
  exact lineFed_ne c hc

/-- Any other character in front stays where it is. -/
theorem unifyNewlines_cons (h : c ≠ '\r') (cs : Text) :
    unifyNewlines (c :: cs) = c :: unifyNewlines cs := by
  rw [unifyNewlines]
  · rw [if_neg h]
  · rintro rest rfl
    exact absurd rfl h

theorem unifyNewlines_of_not_mem {cs : Text} (h : '\r' ∉ cs) : unifyNewlines cs = cs := by
  fun_induction unifyNewlines cs with
  | case1 => rfl
  | case2 cs => simp at h
  | case3 c cs _ ih =>
    simp only [List.mem_cons, not_or] at h
    rw [if_neg (Ne.symm h.1), ih h.2]

end StoryBlanks.Text
