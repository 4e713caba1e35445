import StoryBlanks.Title
import StoryBlanks.Files.Tree
import StoryBlanks.Proofs.Text.Lines

/-!
# Paths and the files that they lead to

How one path is seen from another, and what can be read. Main statements: a path is the same as
seen from a directory only if it is absolute or the directory is the working directory itself; and
a path leads to a file exactly if it can be read.
-/
namespace StoryBlanks

theorem Text.mem_joinWith {sep : Text} {pieces : List Text} {c : Char} (hc : c ∉ sep) :
    c ∈ joinWith sep pieces ↔ ∃ piece ∈ pieces, c ∈ piece := by
  unfold joinWith
  fun_induction List.intersperse sep pieces with
  | case1 => simp
  | case2 piece => simp
  | case3 piece next rest ih => simp [hc, ih]

namespace Path

variable {d p q : Path}

theorem join_def (p q : Path) : p / q = p.join q := rfl

theorem join_of_isAbsolute (h : q.isAbsolute) : p / q = q := by
  rw [join_def, join, if_pos h]

theorem root_join (h : ¬ q.isAbsolute) : (p / q).root = p.root := by
  rw [join_def, join, if_neg h]

theorem names_join (h : ¬ q.isAbsolute) : (p / q).names = p.names ++ q.names := by
  rw [join_def, join, if_neg h]

@[simp] theorem isAbsolute_join (p q : Path) :
    (p / q).isAbsolute = (p.isAbsolute || q.isAbsolute) := by
  by_cases h : q.isAbsolute
  · rw [join_of_isAbsolute h, h, Bool.or_true]
  · rw [isAbsolute, root_join h, Bool.eq_false_iff.mpr h, Bool.or_false, isAbsolute]

theorem root_of_not_isAbsolute (h : ¬ p.isAbsolute) : p.root = .here := by
  simpa [isAbsolute] using h

theorem ext_names (hroot : p.root = q.root) (hnames : p.names = q.names) : p = q := by
  cases p
  cases q
  cases hroot
  cases hnames
  rfl

/-- A relative path is only the same as seen from the working directory. -/
theorem join_eq_self_iff : d / p = p ↔ p.isAbsolute ∨ d.isAbsolute = false ∧ d.names = [] := by
  by_cases h : p.isAbsolute
  · simp [join_of_isAbsolute h, h]
  · simp only [h, Bool.false_eq_true, false_or]
    constructor
    · intro he
      have hroot : d.isAbsolute = false := by
        have habs := isAbsolute_join d p
        rw [he, Bool.eq_false_iff.mpr h] at habs
        simpa using habs.symm
      have hnames : d.names ++ p.names = p.names := by rw [← names_join h, he]
      exact ⟨hroot, by simpa using hnames⟩
    · rintro ⟨hroot, hnames⟩
      refine ext_names ?_ ?_
      · rw [root_join h, root_of_not_isAbsolute h]
        exact root_of_not_isAbsolute (by simp [hroot])
      · rw [names_join h, hnames, List.nil_append]

/-- Apart from slashes and dots, the characters of a path are those of its names. -/
theorem mem_text {c : Char} (hslash : c ≠ '/') (hdot : c ≠ '.') :
    c ∈ p.text ↔ ∃ n ∈ p.names, c ∈ n := by
  have hsep : c ∉ (['/'] : Text) := by simpa using hslash
  rw [← Text.mem_joinWith hsep]
  unfold text
  split <;> simp_all [Text.joinWith]

/-- A null character in a joined path comes from one of the two. -/
theorem null_not_mem_join (hd : '\x00' ∉ d.text) (hp : '\x00' ∉ p.text) : '\x00' ∉ (d / p).text := by
  have hchar {q : Path} : '\x00' ∈ q.text ↔ ∃ n ∈ q.names, '\x00' ∈ n :=
    mem_text (by decide) (by decide)
  by_cases habs : p.isAbsolute
  · rwa [join_of_isAbsolute habs]
  · rw [hchar] at hd hp ⊢
    rw [names_join habs]
    rintro ⟨n, hn, hnull⟩
    rcases List.mem_append.mp hn with hn | hn
    · exact hd ⟨n, hn, hnull⟩
    · exact hp ⟨n, hn, hnull⟩

end Path

namespace Tree

variable {t : Tree} {p : Path}

/-- A path leads to a file exactly if it can be read. -/
theorem isFile_iff : t.isFile p = .ok true ↔ ∃ bytes, t.read p = .ok bytes := by
  unfold isFile holds read
  split
  · simp
  · cases t.find p with
    | error reason => cases reason <;> simp
    | ok e => cases e <;> simp

/-- What the system is asked about has no null character in its path. -/
theorem null_not_mem_of_holds {kind : Entry → Bool} (h : t.holds kind p = .ok true) :
    '\x00' ∉ p.text := by
  intro hnull
  rw [holds, if_pos (by simpa using hnull)] at h
  cases h

/-- Only a name that is too long is refused outright. -/
theorem reason_of_holds {kind : Entry → Bool} {r : Refused} (h : t.holds kind p = .error r) :
    r.reason = .nameTooLong := by
  unfold holds at h
  split at h
  · cases h
  · split at h
    · cases h
    · cases h
      rfl
    · cases h

/-- A path without a name leads to a directory, from wherever it is seen. -/
theorem start_is_directory (t : Tree) (absolute : Bool) :
    t.entry? (if absolute then [] else t.here) = some .directory := by
  unfold entry?
  cases absolute <;> simp

/-- A file has a name in its path. -/
theorem names_ne_nil (h : t.isFile p = .ok true) : p.names ≠ [] := by
  intro hn
  have hfind : t.find p = .ok .directory ∨ t.find p = .error .nameTooLong := by
    unfold find resolve
    split
    · exact .inr rfl
    · refine .inl ?_
      have hstart := start_is_directory t p.isAbsolute
      simp [hn, walk, hstart, bind, Except.bind, pure, Except.pure]
  unfold isFile holds at h
  split at h
  · simp at h
  · rcases hfind with hf | hf <;> simp [hf] at h

end Tree
end StoryBlanks
