import StoryBlanks.Proofs.Files.Writing
import StoryBlanks.Proofs.Library.Loading
import StoryBlanks.Proofs.Text.Newline
import StoryBlanks.Proofs.Text.Utf8

/-!
# The text of a story file

The template of a story is the text of its file, up to the line ends. Main statement: a file is loaded
exactly if its bytes are the encoding of a text, and then the template is this text with its line ends
unified; so a template that is written back is loaded as it is.
-/
namespace StoryBlanks.Library

open Result

variable {l : Library} {t : Tree} {p : Path} {m : Option Manifest} {s : Story} {x : Text}
  {bytes : Utf8.Bytes}

/-- What is loaded from a file that holds a text. -/
theorem load_of_read (h : t.read (l.directory / p) = .ok x.utf8) :
    l.load t p m =
      .ok ⟨l.directory / p, titleOf m (l.directory / p), Text.unifyNewlines x⟩ := by
  rw [load_eq, read_of_bytes h, Utf8.decode_utf8]
  rfl

/-- Only a text is loaded from a file. -/
theorem load_eq_ok (h : t.read (l.directory / p) = .ok bytes) : l.load t p m = .ok s ↔
    ∃ x : Text, bytes = x.utf8 ∧
      s = ⟨l.directory / p, titleOf m (l.directory / p), Text.unifyNewlines x⟩ := by
  constructor
  · intro hs
    rw [load_eq, read_of_bytes h] at hs
    cases hd : Utf8.decode bytes with
    | error e => simp [hd, Except.map] at hs
    | ok x =>
      simp only [hd, Except.map, Except.ok.injEq] at hs
      exact ⟨x, Utf8.eq_utf8_of_decode hd, hs.symm⟩
  · rintro ⟨x, rfl, rfl⟩
    exact load_of_read h

theorem load_undecodable (h : t.read (l.directory / p) = .ok bytes)
    (hnone : ¬ ∃ x : Text, bytes = x.utf8) :
    ∃ e, l.load t p m = .error (.source (.undecodableStory (l.directory / p) e)) := by
  rw [load_eq, read_of_bytes h]
  cases hd : Utf8.decode bytes with
  | error e => exact ⟨e, rfl⟩
  | ok x => exact absurd ⟨x, Utf8.eq_utf8_of_decode hd⟩ hnone

/-- A loaded template is loaded again from where it is written to. -/
theorem load_again (h : t.read (l.directory / p) = .ok bytes) (hs : l.load t p m = .ok s) {t' : Tree}
    (h' : t'.read (l.directory / p) = .ok s.template.utf8) : l.load t' p m = .ok s := by
  obtain ⟨x, -, rfl⟩ := (load_eq_ok h).mp hs
  rw [load_of_read h', Text.unifyNewlines_of_not_mem (Text.not_mem_unifyNewlines x)]

theorem template_of_load (h : t.read (l.directory / p) = .ok x.utf8) (hs : l.load t p m = .ok s) :
    s.template = Text.unifyNewlines x := by
  rw [load_of_read h] at hs
  cases hs
  rfl

theorem not_mem_template (h : t.read (l.directory / p) = .ok bytes) (hs : l.load t p m = .ok s) :
    '\r' ∉ s.template := by
  obtain ⟨x, -, rfl⟩ := (load_eq_ok h).mp hs
  exact Text.not_mem_unifyNewlines x

/-- A story file is loaded if and only if its bytes are a text in UTF-8, and the failure is one to
decode it otherwise. The template is the text with a line feed for every carriage return with a line feed
behind it, and then for every other carriage return. It keeps a mark in front, it has no carriage return,
and it is the text itself if that has none. Whatever other tree has the encoded template at the path, the
same story is loaded from it, and so it is when the template is written to the file. -/
theorem load_verbatim (h : t.read (l.directory / p) = .ok bytes) :
    ((∃ s, l.load t p m = .ok s) ↔ ∃ x : Text, bytes = x.utf8) ∧
    ((¬ ∃ x : Text, bytes = x.utf8) →
      ∃ e, l.load t p m = .error (.source (.undecodableStory (l.directory / p) e))) ∧
    ∀ s, l.load t p m = .ok s →
      (∀ x : Text, bytes = x.utf8 →
        s.template = (Text.replace ['\r', '\n'] ['\n'] x).map Text.lineFed ∧
        (x.head? = some '\uFEFF' → s.template.head? = some '\uFEFF') ∧
        ('\r' ∉ x → s.template = x)) ∧
      '\r' ∉ s.template ∧
      (∀ t' : Tree, t'.read (l.directory / p) = .ok s.template.utf8 → l.load t' p m = .ok s) ∧
      (t.IsWhole → l.load (t.write (l.directory / p) s.template.utf8) p m = .ok s) := by
  have hloaded : (∃ s, l.load t p m = .ok s) ↔ ∃ x : Text, bytes = x.utf8 := by
    constructor
    · rintro ⟨s, hs⟩
      obtain ⟨x, hx, -⟩ := (load_eq_ok h).mp hs
      exact ⟨x, hx⟩
    · rintro ⟨x, hx⟩
      exact ⟨_, (load_eq_ok h).mpr ⟨x, hx, rfl⟩⟩
  refine ⟨hloaded, load_undecodable h, fun s hs => ⟨fun x hx => ?_, not_mem_template h hs, ?_, ?_⟩⟩
  · subst hx
    rw [template_of_load h hs]
    refine ⟨Text.unifyNewlines_eq x, fun hmark => ?_, Text.unifyNewlines_of_not_mem⟩
    obtain ⟨rest, rfl⟩ := List.head?_eq_some_iff.mp hmark
    rw [Text.unifyNewlines_cons (by decide), List.head?_cons]
  · intro t' h'
    exact load_again h hs h'
  · intro hwhole
    exact load_again h hs (Tree.read_write hwhole h)

/-- A file with a mark in front and three kinds of line ends. -/
def lineEnds : Tree :=
  { entries := [([['a']], .file [0xEF, 0xBB, 0xBF, 97, 13, 10, 98, 13, 99, 10])] }

/-- Each of the line ends is read as one line feed. -/
theorem load_verbatim_lineEnds :
    lineEnds.read (Path.ofText [] / Path.ofText ['a']) =
        .ok [0xEF, 0xBB, 0xBF, 97, 13, 10, 98, 13, 99, 10] ∧
      lineEnds.IsWhole ∧
      ∃ s, load { directory := Path.ofText [] } lineEnds (Path.ofText ['a']) none = .ok s ∧
        s.template = ['\uFEFF', 'a', '\n', 'b', '\n', 'c', '\n'] ∧
        load { directory := Path.ofText [] }
          (lineEnds.write (Path.ofText [] / Path.ofText ['a']) s.template.utf8)
          (Path.ofText ['a']) none = .ok s := by
  have hread : lineEnds.read (Path.ofText [] / Path.ofText ['a']) =
      .ok [0xEF, 0xBB, 0xBF, 97, 13, 10, 98, 13, 99, 10] := by cbv
  have hwhole : lineEnds.IsWhole := by decide
  have hload := load_verbatim (l := { directory := Path.ofText [] }) (m := none) hread
  have htext : [0xEF, 0xBB, 0xBF, 97, 13, 10, 98, 13, 99, 10] =
      Text.utf8 ['\uFEFF', 'a', '\r', '\n', 'b', '\r', 'c', '\n'] := by decide
  obtain ⟨s, hs⟩ := hload.1.mpr ⟨_, htext⟩
  obtain ⟨htemplate, -, -, hwrite⟩ := hload.2.2 s hs
  refine ⟨hread, hwhole, s, hs, ?_, hwrite hwhole⟩
  rw [(htemplate _ htext).1]
  decide

end StoryBlanks.Library
