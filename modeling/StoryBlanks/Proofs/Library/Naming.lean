import StoryBlanks.Proofs.Library.Loading
import StoryBlanks.Proofs.Text.Words

/-!
# Titles from the names of files

A story without a title of its own is called after its file. Main statement: no story is loaded without
a title; and a title from a path is in words, without underscores, hyphens or blanks at its ends, and the
same whichever of them part the words of the name, unless there is nothing else in the stem of the name,
and only then is it the bare name.
-/
namespace StoryBlanks

open Text (isBlank isGap)

namespace Path

variable {p : Path}

theorem name_ne_nil (h : p.names ≠ []) : p.name ≠ [] := by
  obtain ⟨front, last, hlast⟩ := List.eq_nil_or_concat p.names |>.resolve_left h
  have hname : p.name = last := by simp [name, hlast]
  have hvalid : isName last := p.isName_of_mem last (by simp [hlast])
  rw [hname]
  rintro rfl
  exact absurd hvalid (by decide)

end Path

namespace Title

variable {p q : Path} {cs ds : Text}

def words (p : Path) : Text := Text.toTitle (Text.trim (spaced p.stem))

/-- The title by cases: the words of the stem, or the bare name where there are none. -/
theorem ofPath_eq (p : Path) : ofPath p = if words p = [] then p.name else words p := by
  unfold ofPath words
  split
  · next h => rw [if_pos h]
  · next h => rw [if_neg h]

def spacedChar (c : Char) : Char := if c = '_' || c = '-' then ' ' else c

theorem spaced_eq_map (cs : Text) : spaced cs = cs.map spacedChar := rfl

theorem spacedChar_cases (c : Char) :
    (c = '_' ∨ c = '-') ∧ spacedChar c = ' ' ∨ (c ≠ '_' ∧ c ≠ '-') ∧ spacedChar c = c := by
  by_cases h : c = '_' ∨ c = '-'
  · exact .inl ⟨h, if_pos (by simpa using h)⟩
  · exact .inr ⟨not_or.mp h, if_neg (by simpa using h)⟩

theorem isBlank_spacedChar (c : Char) : isBlank (spacedChar c) = isGap c := by
  rcases spacedChar_cases c with ⟨rfl | rfl, h⟩ | ⟨⟨hunder, hhyphen⟩, h⟩
  · rw [h]
    rfl
  · rw [h]
    rfl
  · simp [h, isGap, hunder, hhyphen]

theorem not_mem_spaced {c : Char} (h : c = '_' ∨ c = '-') (cs : Text) : c ∉ spaced cs := by
  intro hmem
  rw [spaced_eq_map] at hmem
  obtain ⟨d, -, rfl⟩ := List.mem_map.mp hmem
  rcases spacedChar_cases d with ⟨-, hd⟩ | ⟨hd, he⟩
  · exact absurd h (by rw [hd]; decide)
  · rw [he] at h
    exact h.elim hd.1 hd.2

/-- Blanks, underscores and hyphens leave nothing to make words of. -/
theorem words_eq_nil_iff : words p = [] ↔ ∀ c ∈ p.stem, isGap c := by
  rw [words, Text.toTitle_eq_nil_iff, Text.trim_eq_nil_iff, spaced_eq_map, List.forall_mem_map]
  simp only [isBlank_spacedChar]

/-- The title has neither underscores nor hyphens, and no blank at either end. -/
structure Tidy (title : Text) : Prop where
  underscore : '_' ∉ title
  hyphen : '-' ∉ title
  first : ∀ c ∈ title.head?, isBlank c = false
  last : ∀ c ∈ title.getLast?, isBlank c = false

/-- Title case makes no separators, and the trimmed stem has none at its ends. -/
theorem tidy_words (p : Path) : Tidy (words p) := by
  have hgone {c : Char} (h : c = '_' ∨ c = '-') : c ∉ Text.trim (spaced p.stem) :=
    fun hmem => not_mem_spaced h _ (Text.mem_of_mem_trim hmem)
  have hgap {c : Char} (hmem : c ∈ Text.trim (spaced p.stem)) (hblank : isBlank c = false) :
      isGap c = false := by
    have hunder : c ≠ '_' := fun h => hgone (.inl h) hmem
    have hhyphen : c ≠ '-' := fun h => hgone (.inr h) hmem
    simp [isGap, hblank, hunder, hhyphen]
  have hblank {c : Char} (h : isGap c = false) : isBlank c = false := by
    simp only [isGap, Bool.or_eq_false_iff] at h
    exact h.1.1
  refine ⟨fun h => ?_, fun h => ?_, fun c hc => ?_, fun c hc => ?_⟩
  · exact hgone (.inl rfl) (Text.mem_of_mem_toTitle h (by decide))
  · exact hgone (.inr rfl) (Text.mem_of_mem_toTitle h (by decide))
  · refine hblank (Text.head?_toTitle (fun d hd => ?_) c hc)
    exact hgap (List.mem_of_mem_head? hd) (Text.head?_trim _ d hd)
  · refine hblank (Text.getLast?_toTitle (fun d hd => ?_) c hc)
    exact hgap (List.mem_of_mem_getLast? hd) (Text.getLast?_trim _ d hd)

theorem ofPath_ne_nil (h : p.name ≠ []) : ofPath p ≠ [] := by
  rw [ofPath_eq]
  split
  · exact h
  · assumption

/-! ## What parts the words -/

/-- A character as it was, or an underscore, hyphen or space in place of another of the three. -/
def Exchanged (c d : Char) : Prop := d = c ∨ c ∈ ['_', '-', ' '] ∧ d ∈ ['_', '-', ' ']

instance (c d : Char) : Decidable (Exchanged c d) :=
  inferInstanceAs (Decidable (d = c ∨ c ∈ ['_', '-', ' '] ∧ d ∈ ['_', '-', ' ']))

theorem spaced_of_exchanged (h : List.Forall₂ Exchanged cs ds) : spaced ds = spaced cs := by
  rw [spaced_eq_map, spaced_eq_map]
  induction h with
  | nil => rfl
  | @cons c d cs ds hcd _ ih =>
    have hsame : spacedChar d = spacedChar c := by
      rcases hcd with rfl | ⟨hc, hd⟩
      · rfl
      · have hspace : ∀ e ∈ ['_', '-', ' '], spacedChar e = ' ' := by simp [spacedChar]
        rw [hspace c hc, hspace d hd]
    rw [List.map_cons, List.map_cons, ih, hsame]

/-- Dots stay where they are, so the stem of a name ends at the same place. -/
theorem length_suffix_spaced (cs : Text) :
    ((spaced cs).reverse.takeWhile (· ≠ '.')).length = (cs.reverse.takeWhile (· ≠ '.')).length := by
  have hdot : (fun c => decide (c ≠ '.')) ∘ spacedChar = fun c => decide (c ≠ '.') := by
    funext c
    rcases spacedChar_cases c with ⟨rfl | rfl, h⟩ | ⟨-, h⟩
    · rfl
    · rfl
    · rw [Function.comp_apply, h]
  rw [spaced_eq_map, ← List.map_reverse, List.takeWhile_map, List.length_map, hdot]

theorem spaced_stem_congr (h : spaced p.name = spaced q.name) : spaced p.stem = spaced q.stem := by
  have hlen : p.name.length = q.name.length := by
    simpa [spaced_eq_map] using congrArg List.length h
  have hsuffix : (p.name.reverse.takeWhile (· ≠ '.')).length =
      (q.name.reverse.takeWhile (· ≠ '.')).length := by
    rw [← length_suffix_spaced, h, length_suffix_spaced]
  have hempty : (p.name.reverse.takeWhile (· ≠ '.')).isEmpty =
      (q.name.reverse.takeWhile (· ≠ '.')).isEmpty := by
    rw [Bool.eq_iff_iff, List.isEmpty_iff_length_eq_zero, List.isEmpty_iff_length_eq_zero, hsuffix]
  have htake (k : Nat) : spaced (p.name.take k) = spaced (q.name.take k) := by
    simpa only [spaced_eq_map, List.map_take] using congrArg (List.take k) h
  simp only [Path.stem, hempty, hsuffix, hlen]
  split
  · exact h
  · exact htake _

/-- Underscores, hyphens and spaces may stand for one another. -/
theorem words_congr (h : List.Forall₂ Exchanged p.name q.name) : words q = words p := by
  rw [words, words, spaced_stem_congr (spaced_of_exchanged h)]

end Title

namespace Library

variable {l : Library} {t : Tree} {path : Path} {m : Option Manifest} {s : Story}

/-- A story is loaded from a file. -/
theorem isFile_of_load (h : l.load t path m = .ok s) : t.isFile s.path = .ok true := by
  rw [path_of_load h]
  rw [load_eq] at h
  obtain ⟨text, htext, -⟩ := Result.map_eq_ok.mp h
  unfold read at htext
  split at htext
  · cases htext
  · cases htext
  · next bytes hbytes => exact Tree.isFile_iff.mpr ⟨bytes, hbytes⟩

theorem title_of_load (h : l.load t path m = .ok s) : s.title = titleOf m s.path := by
  rw [load_eq] at h
  obtain ⟨text, -, rfl⟩ := Result.map_eq_ok.mp h
  rfl

theorem titleOf_not_isEmpty (hname : path.name ≠ []) : (titleOf m path).isEmpty = false := by
  have hpath : (Text.Spelling.text (Title.ofPath path)).isEmpty = false := by
    simpa [Text.Spelling.isEmpty, Text.Spelling.codes, Text.codes] using Title.ofPath_ne_nil hname
  unfold titleOf
  split
  · split
    · exact hpath
    · next h => simpa using h
  · exact hpath

/-- A story that is loaded has a title. The title that a path with a name suggests is never empty: it is
the bare name if blanks, underscores and hyphens are all there is in the stem, and the words of the stem
otherwise. These are tidy, and they stay the same when underscores, hyphens and spaces in the name are
exchanged for one another. -/
theorem titles_tidy :
    (∀ (l : Library) (t : Tree) (path : Path) (m : Option Manifest) (s : Story),
      l.load t path m = .ok s → s.title.isEmpty = false) ∧
    ∀ p : Path, p.name ≠ [] → Title.ofPath p ≠ [] ∧
      (Title.words p = [] ↔ ∀ c ∈ p.stem, isBlank c ∨ c = '_' ∨ c = '-') ∧
      (Title.words p = [] → Title.ofPath p = p.name) ∧
      (Title.words p ≠ [] → Title.ofPath p = Title.words p ∧ Title.Tidy (Title.ofPath p) ∧
        ∀ q : Path, List.Forall₂ Title.Exchanged p.name q.name →
          Title.ofPath q = Title.ofPath p) := by
  refine ⟨fun l t path m s h => ?_, fun p hname => ⟨Title.ofPath_ne_nil hname, ?_, ?_, ?_⟩⟩
  · rw [title_of_load h]
    exact titleOf_not_isEmpty (Path.name_ne_nil (Tree.names_ne_nil (isFile_of_load h)))
  · rw [Title.words_eq_nil_iff]
    simp [isGap, or_assoc]
  · intro hnone
    rw [Title.ofPath_eq, if_pos hnone]
  · intro hwords
    have htitle : Title.ofPath p = Title.words p := by rw [Title.ofPath_eq, if_neg hwords]
    refine ⟨htitle, htitle ▸ Title.tidy_words p, fun q hq => ?_⟩
    rw [htitle, Title.ofPath_eq, Title.words_congr hq, if_neg hwords]

def untitledTree : Tree := { entries := [([['a', '_', 'b']], .file [65])] }

def untitled : Manifest := ⟨.text ['1'], [⟨.text ['a', '_', 'b'], ['a', '_', 'b'], some (.text [])⟩]⟩

/-- The story is called after its file all the same, and a name without words stays as it is. -/
theorem titles_tidy_untitled :
    (∃ s, load { directory := Path.ofText [] } untitledTree (Path.ofText ['a', '_', 'b'])
        (some untitled) = .ok s ∧ s.title.isEmpty = false) ∧
      (Path.ofText ['a', '_', 'b']).name ≠ [] ∧
      Title.words (Path.ofText ['a', '_', 'b']) = ['A', ' ', 'B'] ∧
      Title.ofPath (Path.ofText ['a', '-', 'b']) = Title.ofPath (Path.ofText ['a', '_', 'b']) ∧
      Title.Tidy (Title.ofPath (Path.ofText ['a', '_', 'b'])) ∧
      (Path.ofText ['_', '-', '.', 'a']).name ≠ [] ∧
      Title.ofPath (Path.ofText ['_', '-', '.', 'a']) = ['_', '-', '.', 'a'] := by
  have hload : load { directory := Path.ofText [] } untitledTree (Path.ofText ['a', '_', 'b'])
      (some untitled) = .ok ⟨Path.ofText ['a', '_', 'b'], .text ['A', ' ', 'B'], ['A']⟩ := by cbv
  have hname : (Path.ofText ['a', '_', 'b']).name ≠ [] := by decide
  have hwords : Title.words (Path.ofText ['a', '_', 'b']) = ['A', ' ', 'B'] := by decide +kernel
  have hother : (Path.ofText ['_', '-', '.', 'a']).name ≠ [] := by decide
  have hstem : (Path.ofText ['_', '-', '.', 'a']).stem = ['_', '-'] := by decide
  obtain ⟨-, -, -, htitle⟩ := titles_tidy.2 _ hname
  obtain ⟨-, htidy, hsame⟩ := htitle (by rw [hwords]; exact List.cons_ne_nil _ _)
  obtain ⟨-, hnone, hbare, -⟩ := titles_tidy.2 _ hother
  refine ⟨⟨_, hload, titles_tidy.1 _ _ _ _ _ hload⟩, hname, hwords, hsame _ ?_, htidy, hother, ?_⟩
  · decide
  · exact hbare (hnone.mpr (by simp [hstem]))

end Library
end StoryBlanks
