import StoryBlanks.Text.Blank
import StoryBlanks.Text.Casing
import Mathlib.Data.List.DropRight
import Mathlib.Data.List.Forall2

/-!
# Words in title case

Main statements: a trimmed text has no blank at either end, and is empty only if there was nothing but
blanks; title case makes something of every character, and nothing that parts words of one that does
not part them itself.
-/
namespace StoryBlanks.Text

variable {c d : Char} {cs image : Text}

/-! ## Trimming -/

theorem trim_eq_nil_iff : trim cs = [] ↔ ∀ c ∈ cs, isBlank c := by
  have htrim : trim cs = [] ↔ ∀ c ∈ cs.dropWhile isBlank, isBlank c := List.rdropWhile_eq_nil_iff
  rw [htrim]
  constructor
  · intro h c hc
    rw [← List.takeWhile_append_dropWhile (p := isBlank) (l := cs)] at hc
    rcases List.mem_append.mp hc with hc | hc
    · exact List.mem_takeWhile_imp hc
    · exact h c hc
  · intro h c hc
    exact h c ((List.dropWhile_suffix isBlank).subset hc)

theorem mem_of_mem_trim (h : c ∈ trim cs) : c ∈ cs :=
  (List.dropWhile_suffix isBlank).subset ((List.rdropWhile_prefix isBlank _).subset h)

theorem head?_trim (cs : Text) : ∀ c ∈ (trim cs).head?, isBlank c = false := by
  intro c hc
  obtain ⟨rest, hrest⟩ : trim cs <+: cs.dropWhile isBlank := List.rdropWhile_prefix isBlank _
  have hhead : (cs.dropWhile isBlank).head? = some c := by
    rw [← hrest, List.head?_append, hc, Option.some_or]
  simpa [hhead] using List.head?_dropWhile_not isBlank cs

theorem getLast?_trim (cs : Text) : ∀ c ∈ (trim cs).getLast?, isBlank c = false := by
  intro c hc
  obtain ⟨hne, rfl⟩ := List.mem_getLast?_eq_getLast hc
  exact Bool.eq_false_iff.mpr (List.rdropWhile_last_not isBlank (cs.dropWhile isBlank) hne)

/-! ## Characters that part words -/

/-- Blanks part words, and so do underscores and hyphens. -/
def isGap (c : Char) : Bool := isBlank c || c = '_' || c = '-'

def gapRanges : List (Nat × Nat) :=
  [(0x09, 0x0D), (0x1C, 0x20), (0x2D, 0x2D), (0x5F, 0x5F), (0x85, 0x85), (0xA0, 0xA0),
    (0x1680, 0x1680), (0x2000, 0x200A), (0x2028, 0x2029), (0x202F, 0x202F), (0x205F, 0x205F),
    (0x3000, 0x3000)]

theorem isGap_iff : isGap c ↔ ∃ r ∈ gapRanges, r.1 ≤ c.toNat ∧ c.toNat ≤ r.2 := by
  have hunder : c = '_' ↔ c.toNat = 0x5F := Char.toNat_inj.symm
  have hhyphen : c = '-' ↔ c.toNat = 0x2D := Char.toNat_inj.symm
  simp only [isGap, isBlank, hunder, hhyphen, gapRanges, Bool.or_eq_true, Bool.and_eq_true,
    decide_eq_true_eq, beq_iff_eq, List.mem_cons, List.not_mem_nil, or_false, exists_eq_or_imp,
    exists_eq_left]
  omega

/-- No character from one number to another parts words. -/
def Clear (lo hi : Int) : Prop := ∀ r ∈ gapRanges, hi < r.1 ∨ r.2 < lo

instance (lo hi : Int) : Decidable (Clear lo hi) :=
  inferInstanceAs (Decidable (∀ r ∈ gapRanges, hi < r.1 ∨ r.2 < lo))

/-- A number that is none of a character stands for the null character, which parts no words either. -/
theorem isGap_ofNat {n : Nat} {lo hi : Int} (h : Clear lo hi) (hn : n = 0 ∨ lo ≤ n ∧ n ≤ hi) :
    isGap (Char.ofNat n) = false := by
  rw [Bool.eq_false_iff, ne_eq, isGap_iff]
  rintro ⟨r, hr, hlo, hhi⟩
  have hpos : 0 < r.1 := by
    have hranges : ∀ r ∈ gapRanges, 0 < r.1 := by decide
    exact hranges r hr
  have hnumber : (Char.ofNat n).toNat = n ∨ (Char.ofNat n).toNat = 0 := by
    by_cases hvalid : n.isValidChar
    · rw [Char.ofNat, dif_pos hvalid]
      exact .inl rfl
    · rw [Char.ofNat, dif_neg hvalid]
      exact .inr rfl
  have hclear := h r hr
  omega

/-! ## The case tables -/

theorem clear_rows : ∀ row ∈ CaseTable.title ++ CaseTable.lower,
    Clear (row.1 + row.2.2.2) (row.2.1 + row.2.2.2) := by decide +kernel

theorem clear_expansions : ∀ e ∈ CaseTable.titleExpansions ++ CaseTable.lowerExpansions,
    e.2 ≠ [] ∧ ∀ n ∈ e.2, Clear n n := by decide +kernel

/-- What case makes of a character: it stays, or characters that part no words come in its place. -/
def IsCaseOf (c : Char) (image : Text) : Prop := image = [c] ∨ image ≠ [] ∧ ∀ d ∈ image, isGap d = false

theorem IsCaseOf.ne_nil (h : IsCaseOf c image) : image ≠ [] := by
  rcases h with rfl | ⟨hne, -⟩
  · exact List.cons_ne_nil _ _
  · exact hne

theorem IsCaseOf.eq_of_isGap (h : IsCaseOf c image) (hd : d ∈ image) (hgap : isGap d) : d = c := by
  rcases h with rfl | ⟨-, hclear⟩
  · exact List.mem_singleton.mp hd
  · exact absurd hgap (by simp [hclear d hd])

/-- A table makes no separators, provided that none is among the images of its rows and expansions.
-/
theorem isCaseOf_mapped {rows : List CaseTable.Row} {expansions : List (Nat × List Nat)}
    (hrows : ∀ row ∈ rows, Clear (row.1 + row.2.2.2) (row.2.1 + row.2.2.2))
    (hexpansions : ∀ e ∈ expansions, e.2 ≠ [] ∧ ∀ n ∈ e.2, Clear n n) (c : Char) :
    IsCaseOf c (mapped rows expansions c) := by
  unfold mapped
  cases hlookup : expansions.lookup c.toNat with
  | some numbers =>
    obtain ⟨front, back, rfl, -⟩ := List.lookup_eq_some_iff.mp hlookup
    obtain ⟨hne, hclear⟩ := hexpansions (c.toNat, numbers) (by simp)
    refine .inr ⟨by simpa using hne, fun d hd => ?_⟩
    obtain ⟨n, hn, rfl⟩ := List.mem_map.mp hd
    exact isGap_ofNat (hclear n hn) (by omega)
  | none =>
    dsimp only
    split
    · next lo hi step shift hfind =>
      have hin := List.find?_some hfind
      simp only [Bool.and_eq_true, decide_eq_true_eq] at hin
      have hclear := hrows _ (List.mem_of_find?_eq_some hfind)
      refine .inr ⟨List.cons_ne_nil _ _, fun d hd => ?_⟩
      rw [List.mem_singleton.mp hd]
      exact isGap_ofNat hclear (by simp only; omega)
    · exact .inl rfl

theorem isCaseOf_titleChar (c : Char) : IsCaseOf c (titleChar c) :=
  isCaseOf_mapped (fun row hrow => clear_rows row (List.mem_append_left _ hrow))
    (fun e he => clear_expansions e (List.mem_append_left _ he)) c

theorem isCaseOf_lowerBetween (before : Text) (c : Char) (after : Text) :
    IsCaseOf c (lowerBetween before c after) := by
  unfold lowerBetween
  split
  · split
    · exact .inr ⟨List.cons_ne_nil _ _, List.forall_mem_singleton.mpr (by decide)⟩
    · exact .inr ⟨List.cons_ne_nil _ _, List.forall_mem_singleton.mpr (by decide)⟩
  · exact isCaseOf_mapped (fun row hrow => clear_rows row (List.mem_append_right _ hrow))
      (fun e he => clear_expansions e (List.mem_append_right _ he)) c

/-! ## Title case -/

theorem exists_images (before cs : Text) :
    ∃ images, List.Forall₂ IsCaseOf cs images ∧ titleFrom before cs = images.flatten := by
  induction cs generalizing before with
  | nil => exact ⟨[], .nil, rfl⟩
  | cons c cs ih =>
    obtain ⟨images, himages, hrest⟩ := ih (c :: before)
    unfold titleFrom
    rw [hrest]
    refine ⟨_ :: images, .cons ?_ himages, rfl⟩
    cases before with
    | nil => exact isCaseOf_titleChar c
    | cons b before =>
      dsimp only
      split
      · exact isCaseOf_lowerBetween _ _ _
      · exact isCaseOf_titleChar c

/-- Title case goes character by character, though the neighbours have a say. -/
theorem exists_images_toTitle (cs : Text) :
    ∃ images, List.Forall₂ IsCaseOf cs images ∧ toTitle cs = images.flatten := exists_images [] cs

theorem toTitle_eq_nil_iff : toTitle cs = [] ↔ cs = [] := by
  obtain ⟨images, himages, htitle⟩ := exists_images_toTitle cs
  rw [htitle]
  cases himages with
  | nil => simp
  | cons hc _ => simp [hc.ne_nil]

/-- What parts words in a text in title case has been there before. -/
theorem mem_of_mem_toTitle (hd : d ∈ toTitle cs) (hgap : isGap d) : d ∈ cs := by
  obtain ⟨images, himages, htitle⟩ := exists_images_toTitle cs
  rw [htitle] at hd
  clear htitle
  induction himages with
  | nil => simp at hd
  | cons hc _ ih =>
    rcases List.mem_append.mp hd with hd | hd
    · rw [hc.eq_of_isGap hd hgap]
      exact List.mem_cons_self
    · exact List.mem_cons_of_mem _ (ih hd)

/-- A text that does not begin with what parts words does not so in title case. -/
theorem head?_toTitle (h : ∀ c ∈ cs.head?, isGap c = false) :
    ∀ d ∈ (toTitle cs).head?, isGap d = false := by
  obtain ⟨images, himages, htitle⟩ := exists_images_toTitle cs
  rw [htitle]
  cases himages with
  | nil => simp
  | @cons c image cs images hc _ =>
    intro d hd
    rw [List.flatten_cons, List.head?_append_of_ne_nil _ hc.ne_nil] at hd
    by_contra hgap
    rw [hc.eq_of_isGap (List.mem_of_mem_head? hd) (by simpa using hgap)] at hgap
    exact hgap (h c rfl)

theorem getLast?_toTitle (h : ∀ c ∈ cs.getLast?, isGap c = false) :
    ∀ d ∈ (toTitle cs).getLast?, isGap d = false := by
  obtain ⟨images, himages, htitle⟩ := exists_images_toTitle cs
  rw [htitle]
  clear htitle
  induction himages with
  | nil => simp
  | @cons c image cs images hc hrest ih =>
    cases hrest with
    | nil =>
      intro d hd
      rw [List.flatten_cons, List.flatten_nil, List.append_nil] at hd
      by_contra hgap
      rw [hc.eq_of_isGap (List.mem_of_mem_getLast? hd) (by simpa using hgap)] at hgap
      exact hgap (h c rfl)
    | @cons c' image' cs images hc' hrest =>
      have hne : (image' :: images).flatten ≠ [] := by simp [hc'.ne_nil]
      rw [List.flatten_cons, List.getLast?_append_of_ne_nil _ hne]
      exact ih (by simpa [List.getLast?_cons_cons] using h)

end StoryBlanks.Text
