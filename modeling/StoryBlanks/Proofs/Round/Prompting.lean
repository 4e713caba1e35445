import StoryBlanks.Round
import StoryBlanks.Proofs.Template.Nesting
import StoryBlanks.Proofs.Text.Lines
import StoryBlanks.Proofs.Text.Replacing

/-!
# Prompts

A prompt is made by replacing a text, and a template is filled by its blanks. Main statement: if the
prompt format is a template, then the text that stands for a label stands just where the format has a
blank that asks for a label, so a prompt is the format with these blanks filled and all others put back.
-/
namespace StoryBlanks

namespace Template

variable {k new : Text} {x : Symbol} {xs : List Symbol}

def writeWith (k new : Text) (xs : List Symbol) : Text :=
  xs.flatMap fun x => if x = .blank k then new else x.write

@[simp] theorem writeWith_cons (k new : Text) (x : Symbol) (xs : List Symbol) :
    writeWith k new (x :: xs) = (if x = .blank k then new else x.write) ++ writeWith k new xs := rfl

theorem writeWith_self (k : Text) (xs : List Symbol) :
    writeWith k (Symbol.write (.blank k)) xs = write xs := by
  induction xs with
  | nil => rfl
  | cons x xs ih =>
    rw [writeWith_cons, write_cons, ih]
    split
    · next h => rw [h]
    · rfl

/-- To fill the blanks with one label, and put all others back. -/
theorem weave_with (k new : Text) (xs : List Symbol) :
    weave xs ((blanks xs).map fun l => if l = k then new else '{' :: (l ++ ['}'])) =
      writeWith k new xs := by
  rw [weave_map]
  refine List.flatMap_congr fun x _ => ?_
  cases x with
  | letter c => simp [Symbol.writeAs, Symbol.write]
  | blank l => simp [Symbol.writeAs, Symbol.write]

/-! ## Where a blank stands -/

/-- Only the first character of a symbol can open a blank. -/
theorem Symbol.write_eq_cons (hx : x.Readable) : ∃ c s, x.write = c :: s ∧ '{' ∉ s := by
  cases x with
  | letter c => exact ⟨c, [], rfl, by simp⟩
  | blank l => exact ⟨'{', l ++ ['}'], rfl, by simpa using hx.1⟩

/-- Readable symbols do not close a blank that none of them opens. -/
theorem not_starts_closing (hx : ∀ x ∈ xs, x.Readable) (ho : '{' ∉ k) :
    ¬ k ++ ['}'] <+: write xs := by
  induction k generalizing xs with
  | nil =>
    intro h
    cases xs with
    | nil => simp at h
    | cons x xs =>
      cases x with
      | letter c => exact hx (.letter c) (by simp) (List.cons_prefix_cons.mp h).1.symm
      | blank l => exact absurd (List.cons_prefix_cons.mp h).1 (by decide)
  | cons c k ih =>
    rw [List.mem_cons, not_or] at ho
    intro h
    cases xs with
    | nil => simp at h
    | cons x xs =>
      cases x with
      | letter d => exact ih (List.forall_mem_cons.mp hx).2 ho.2 (List.cons_prefix_cons.mp h).2
      | blank l => exact ho.1 (List.cons_prefix_cons.mp h).1.symm

/-- A blank stands only where it was written. -/
theorem eq_blank_of_starts (hx : ∀ y ∈ x :: xs, y.Readable) (hk : (Symbol.blank k).Readable)
    (h : Symbol.write (.blank k) <+: write (x :: xs)) : x = .blank k := by
  cases x with
  | letter c =>
    have hrest := (List.cons_prefix_cons.mp h).2
    exact absurd hrest (not_starts_closing (List.forall_mem_cons.mp hx).2 hk.1)
  | blank l =>
    have hl : '}' ∉ l := (hx (.blank l) (by simp)).2
    obtain ⟨rest, hrest⟩ := (List.cons_prefix_cons.mp h).2
    change k ++ ['}'] ++ rest = l ++ ['}'] ++ write xs at hrest
    have heq : k ++ '}' :: rest = l ++ '}' :: write xs := by simpa using hrest
    have hpieces := congrArg (List.splitOn '}') heq
    rw [List.splitOn_append_cons_self_of_not_mem hk.2,
      List.splitOn_append_cons_self_of_not_mem hl] at hpieces
    rw [(List.cons.inj hpieces).1]

/-- A blank is seen in what is written only if it is among the symbols: labels hold no braces. -/
theorem not_blank_infix (hx : ∀ x ∈ xs, x.Readable) (hk : (Symbol.blank k).Readable)
    (h : Symbol.blank k ∉ xs) : ¬ Symbol.write (.blank k) <:+: write xs := by
  induction xs with
  | nil => simp [Symbol.write]
  | cons x xs ih =>
    rw [List.mem_cons, not_or] at h
    intro hin
    obtain ⟨c, s, hw, hs⟩ := Symbol.write_eq_cons (hx x (by simp))
    rw [write_cons, hw, List.cons_append, List.infix_cons_iff] at hin
    rcases hin with hpre | hin
    · rw [← List.cons_append, ← hw, ← write_cons] at hpre
      exact h.1 (eq_blank_of_starts hx hk hpre).symm
    · exact ih (List.forall_mem_cons.mp hx).2 h.2 (Text.infix_of_infix_append hs hin)

/-- Replacing what a blank is written as replaces the blanks with its label and nothing else: by
induction on the symbols, each of which is either replaced whole or kept to its last character. -/
theorem replace_write (hx : ∀ x ∈ xs, x.Readable) (hk : (Symbol.blank k).Readable) (new : Text) :
    Text.replace (Symbol.write (.blank k)) new (write xs) = writeWith k new xs := by
  have hne : Symbol.write (.blank k) ≠ [] := List.cons_ne_nil _ _
  induction xs with
  | nil => rfl
  | cons x xs ih =>
    have ih := ih (List.forall_mem_cons.mp hx).2
    by_cases h : x = .blank k
    · rw [write_cons, h, Text.replace_append hne, ih, writeWith_cons, if_pos rfl]
    · obtain ⟨c, s, hw, hs⟩ := Symbol.write_eq_cons (hx x (by simp))
      have hc : ¬ Symbol.write (.blank k) <+: c :: (s ++ write xs) := by
        intro hpre
        rw [← List.cons_append, ← hw, ← write_cons] at hpre
        exact h (eq_blank_of_starts hx hk hpre)
      have hrest : Text.replace (Symbol.write (.blank k)) new (s ++ write xs) =
          s ++ writeWith k new xs := by
        rw [← ih]
        exact Text.replace_append_of_not_mem _ new hs _
      rw [write_cons, writeWith_cons, if_neg h, hw, List.cons_append,
        Text.replace_cons hne hc, hrest, List.cons_append]

/-! ## What stands between the blanks -/

/-- The symbols before, between and behind the blanks with one label. -/
theorem exists_between (k : Text) (xs : List Symbol) :
    ∃ ys yss, (∀ zs ∈ ys :: yss, Symbol.blank k ∉ zs ∧ zs ⊆ xs) ∧
      yss.length = (blanks xs).count k ∧
      ∀ new, writeWith k new xs = Text.joinWith new (write ys :: yss.map write) := by
  induction xs with
  | nil => exact ⟨[], [], by simp, rfl, fun new => rfl⟩
  | cons x xs ih =>
    obtain ⟨ys, yss, hmem, hlen, hjoin⟩ := ih
    have hsub : ∀ zs ∈ ys :: yss, Symbol.blank k ∉ zs ∧ zs ⊆ x :: xs :=
      fun zs hzs => ⟨(hmem zs hzs).1, List.subset_cons_of_subset x (hmem zs hzs).2⟩
    by_cases h : x = .blank k
    · refine ⟨[], ys :: yss, List.forall_mem_cons.mpr ⟨by simp, hsub⟩, ?_, fun new => ?_⟩
      · rw [h, blanks_blank, List.count_cons_self, List.length_cons, hlen]
      · rw [writeWith_cons, if_pos h, hjoin, Text.joinWith_cons, Text.joinWith_cons]
        simp
    · obtain ⟨hhead, htail⟩ := List.forall_mem_cons.mp hsub
      refine ⟨x :: ys, yss, List.forall_mem_cons.mpr ⟨⟨?_, ?_⟩, htail⟩, ?_, fun new => ?_⟩
      · rw [List.mem_cons, not_or]
        exact ⟨Ne.symm h, hhead.1⟩
      · exact List.cons_subset_cons x (hmem ys (by simp)).2
      · rw [hlen]
        cases x with
        | letter c => rfl
        | blank l =>
          have hl : l ≠ k := fun he => h (he ▸ rfl)
          rw [blanks_blank, List.count_cons_of_ne hl]
      · rw [writeWith_cons, if_neg h, hjoin, Text.joinWith_cons, Text.joinWith_cons, write_cons,
          List.append_assoc]

end Template

namespace Round

open Template

/-- The label of the blanks that a prompt is made by. -/
def slotLabel : Text := ['l', 'a', 'b', 'e', 'l']

theorem slot_eq : slot = Symbol.write (.blank slotLabel) := by decide

theorem readable_slotLabel : (Symbol.blank slotLabel).Readable := by
  constructor <;> decide

/-- If the prompt format is a template, the prompt for a label is the format with the label in each of
its blanks that ask for one and every other blank put back. The format is cut into as many pieces as that
takes, in none of which there is anything to replace, and a prompt is these pieces with the label
between them. -/
theorem promptText_fills {r : Round} {ls : List Text} (h : Template.labels r.promptFormat = .ok ls) :
    (∀ label : Text, Template.fill r.promptFormat
        (ls.map fun l => if l = slotLabel then label else '{' :: (l ++ ['}'])) =
      .ok (r.promptText label)) ∧
    ∃ pieces : List Text, pieces.length = ls.count slotLabel + 1 ∧
      (∀ piece ∈ pieces, ¬ slot <:+: piece) ∧ r.promptFormat = Text.joinWith slot pieces ∧
      ∀ label : Text, r.promptText label = Text.joinWith label pieces := by
  obtain ⟨xs, hx, hformat, rfl⟩ := exists_symbols_of_labels h
  have hprompt : ∀ label, r.promptText label = writeWith slotLabel label xs := by
    intro label
    rw [promptText, ← hformat, slot_eq, replace_write hx readable_slotLabel]
  refine ⟨fun label => ?_, ?_⟩
  · rw [← hformat, fill_write hx (by simp), weave_with, hprompt]
  · obtain ⟨ys, yss, hmem, hlen, hjoin⟩ := exists_between slotLabel xs
    refine ⟨write ys :: yss.map write, by simp [hlen], ?_, ?_, fun label => ?_⟩
    · intro piece hpiece
      rw [← List.map_cons] at hpiece
      obtain ⟨zs, hzs, rfl⟩ := List.mem_map.mp hpiece
      rw [slot_eq]
      exact not_blank_infix (fun z hz => hx z ((hmem zs hzs).2 hz)) readable_slotLabel (hmem zs hzs).1
    · rw [← hformat, slot_eq, ← hjoin, writeWith_self]
    · rw [hprompt, hjoin]

/-- A format with an opening brace that is given up, a blank that asks for something else, and one that is
never closed. -/
def strayRound : Round :=
  ⟨[], [], "\x7b\x7blabel\x7da\x7bb\x7d\x7blabel\x7d\x7blabel", rfl⟩

/-- A label that looks like what it is put in place of. -/
theorem promptText_fills_stray :
    Template.labels strayRound.promptFormat = .ok [slotLabel, ['b'], slotLabel] ∧
      Template.fill strayRound.promptFormat [slot, ['{', 'b', '}'], slot] =
        .ok (strayRound.promptText slot) ∧
      ∃ pieces : List Text, pieces.length = 3 ∧ (∀ piece ∈ pieces, ¬ slot <:+: piece) ∧
        strayRound.promptText ['}', '{'] = Text.joinWith ['}', '{'] pieces := by
  have h : Template.labels strayRound.promptFormat = .ok [slotLabel, ['b'], slotLabel] := by decide
  obtain ⟨hfill, pieces, hlen, hpieces, -, hprompt⟩ := promptText_fills h
  exact ⟨h, hfill slot, pieces, hlen, hpieces, hprompt ['}', '{']⟩

end Round
end StoryBlanks
