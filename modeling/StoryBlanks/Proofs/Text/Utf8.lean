import StoryBlanks.Text.Utf8
import Mathlib.Data.List.TakeWhile
import Mathlib.Data.List.Basic

/-!
# Bytes that are a text

The first byte of a character tells how many bytes follow it, and the range of the first of them. Main
statement: bytes are read as a text exactly if they are what the text is written as, so that no other
bytes are a text and none are two. Characters are written as by the standard library.
-/
namespace StoryBlanks

/-- The text in UTF-8, written by the standard library. -/
def Text.utf8 (cs : Text) : Utf8.Bytes := cs.flatMap String.utf8EncodeChar

namespace Utf8

variable {a : UInt8} {bs fs rest left : Bytes} {l : Lead} {c : Char} {cs : Text}

/-! ## Bytes behind a first byte -/

/-- What a first byte promises, by its range. -/
theorem lead?_eq_some : lead? a = some l ↔
    (a.toNat < 0x80 ∧ l = ⟨0, 0x80, 0xBF, a.toNat⟩) ∨
    ((0xC2 ≤ a.toNat ∧ a.toNat < 0xE0) ∧ l = ⟨1, 0x80, 0xBF, a.toNat - 0xC0⟩) ∨
    ((0xE0 ≤ a.toNat ∧ a.toNat < 0xF0) ∧
      l = ⟨2, if a.toNat = 0xE0 then 0xA0 else 0x80, if a.toNat = 0xED then 0x9F else 0xBF,
        a.toNat - 0xE0⟩) ∨
    ((0xF0 ≤ a.toNat ∧ a.toNat < 0xF5) ∧
      l = ⟨3, if a.toNat = 0xF0 then 0x90 else 0x80, if a.toNat = 0xF4 then 0x8F else 0xBF,
        a.toNat - 0xF0⟩) := by
  simp only [lead?, UInt8.lt_iff_toNat_lt, ← UInt8.toNat_inj, UInt8.reduceToNat]
  split
  · grind
  split
  · grind
  split
  · grind
  split
  · grind
  split <;> grind

/-- The bytes complete the character that a first byte begins. -/
structure Lead.Completes (l : Lead) (fs : Bytes) : Prop where
  length : fs.length = l.follow
  first : ∀ b ∈ fs.head?, l.low.toNat ≤ b.toNat ∧ b.toNat ≤ l.high.toNat
  further : ∀ b ∈ fs.tail, 0x80 ≤ b.toNat ∧ b.toNat ≤ 0xBF

/-- The number of a character, of which a first byte gives the highest bits. -/
def Lead.number (l : Lead) (fs : Bytes) : Nat :=
  fs.foldl (fun n b => n * 64 + (b.toNat - 0x80)) l.bits

theorem length_takeWhile_eq_iff {α : Type} {p : α → Bool} {xs : List α} {k : Nat}
    (h : xs.length ≤ k) : (xs.takeWhile p).length = k ↔ xs.length = k ∧ ∀ x ∈ xs, p x := by
  have hle : (xs.takeWhile p).length ≤ xs.length := (List.takeWhile_prefix p).length_le
  constructor
  · intro hk
    have hall : xs.takeWhile p = xs := (List.takeWhile_prefix p).eq_of_length (by omega)
    exact ⟨by omega, List.takeWhile_eq_self_iff.mp hall⟩
  · rintro ⟨hk, hp⟩
    rw [List.takeWhile_eq_self_iff.mpr hp, hk]

/-- As many bytes fit as are promised exactly if these bytes complete the character. -/
theorem Lead.fit_eq_follow_iff : l.fit bs = l.follow ↔ l.Completes (bs.take l.follow) := by
  cases hk : l.follow with
  | zero =>
    have hfit : l.fit bs = 0 := by cases bs <;> simp [fit, hk]
    rw [hfit, List.take_zero]
    exact ⟨fun _ => ⟨hk.symm, by simp, by simp⟩, fun _ => rfl⟩
  | succ k =>
    cases bs with
    | nil => exact ⟨fun h => (by cases h), fun h => absurd h.length (by simp [hk])⟩
    | cons b bs =>
      rw [List.take_succ_cons]
      by_cases hb : l.low.toNat ≤ b.toNat ∧ b.toNat ≤ l.high.toNat
      · have hfit : l.fit (b :: bs) =
            1 + ((bs.take k).takeWhile fun c => 0x80 ≤ c && c ≤ 0xBF).length := by
          simp [fit, hk, UInt8.lt_iff_toNat_lt, Nat.not_lt.mpr hb.1, Nat.not_lt.mpr hb.2]
        rw [hfit, Nat.add_comm, Nat.succ_inj, length_takeWhile_eq_iff (List.length_take_le k bs)]
        constructor
        · rintro ⟨hlength, hfurther⟩
          refine ⟨by simp [hk, hlength], by simpa using hb, ?_⟩
          simpa [UInt8.le_iff_toNat_le] using hfurther
        · intro h
          refine ⟨by simpa [hk] using h.length, ?_⟩
          simpa [UInt8.le_iff_toNat_le] using h.further
      · have hunfit : b < l.low ∨ l.high < b := by
          rw [UInt8.lt_iff_toNat_lt, UInt8.lt_iff_toNat_lt]
          omega
        have hfit : l.fit (b :: bs) = 0 := by simp [fit, hunfit, or_assoc]
        rw [hfit]
        exact ⟨fun h => (by cases h), fun h => absurd (h.first b rfl) hb⟩

/-- A character is read where a first byte is completed. -/
theorem next?_cons_eq_some : next? (a :: bs) = some (c, rest) ↔
    ∃ l fs, lead? a = some l ∧ l.Completes fs ∧ bs = fs ++ rest ∧ Char.ofNat (l.number fs) = c := by
  cases hl : lead? a with
  | none => simp [next?, hl]
  | some l =>
    simp only [next?, hl, Option.some.injEq, exists_and_left, exists_eq_left']
    by_cases hfit : l.fit bs = l.follow
    · rw [if_pos hfit]
      simp only [Option.some.injEq, Prod.mk.injEq]
      constructor
      · rintro ⟨rfl, rfl⟩
        exact ⟨_, Lead.fit_eq_follow_iff.mp hfit, (List.take_append_drop _ bs).symm, rfl⟩
      · rintro ⟨fs, h, rfl, rfl⟩
        rw [← h.length, List.take_left, List.drop_left]
        exact ⟨rfl, rfl⟩
    · rw [if_neg hfit]
      constructor
      · intro h
        cases h
      · rintro ⟨fs, h, rfl, -⟩
        refine absurd (Lead.fit_eq_follow_iff.mpr ?_) hfit
        rwa [← h.length, List.take_left]

/-! ## One character -/

def IsScalar (n : Nat) : Prop := n < 0xD800 ∨ 0xE000 ≤ n ∧ n < 0x110000

theorem isScalar_toNat (c : Char) : IsScalar c.toNat := by
  rcases c.valid with h | ⟨hlow, hhigh⟩
  · exact .inl h
  · exact .inr ⟨hlow, hhigh⟩

theorem toNat_ofNat {n : Nat} (h : IsScalar n) : (Char.ofNat n).toNat = n := by
  have hvalid : n.isValidChar := by
    unfold IsScalar at h
    unfold Nat.isValidChar
    omega
  rw [Char.ofNat, dif_pos hvalid]
  rfl

theorem ofNat_eq {n : Nat} (h : n = a.toNat) : UInt8.ofNat n = a := h ▸ UInt8.ofNat_toNat

/-- A character is written as a first byte and bytes that complete it. -/
theorem exists_lead (c : Char) : ∃ a l fs, encodeChar c = a :: fs ∧ lead? a = some l ∧
    l.Completes fs ∧ l.number fs = c.toNat := by
  have hscalar := isScalar_toNat c
  unfold IsScalar at hscalar
  simp only [encodeChar]
  generalize c.toNat = n at hscalar
  split
  · refine ⟨_, _, _, rfl, lead?_eq_some.mpr (.inl ⟨?_, rfl⟩), ⟨rfl, by simp, by simp⟩, ?_⟩
    · simp; omega
    · simp [Lead.number]; omega
  split
  · refine ⟨_, _, _, rfl, lead?_eq_some.mpr (.inr (.inl ⟨?_, rfl⟩)), ⟨rfl, ?_, by simp⟩, ?_⟩
    · simp; omega
    · simp; omega
    · simp [Lead.number]; omega
  -- after three or four bytes the range of the second one hangs on the first one
  split
  · refine ⟨_, _, _, rfl, lead?_eq_some.mpr (.inr (.inr (.inl ⟨?_, rfl⟩))), ⟨rfl, ?_, ?_⟩, ?_⟩
    · simp; omega
    · simp [apply_ite UInt8.toNat]; split <;> split <;> omega
    · simp; omega
    · simp [Lead.number]; omega
  · refine ⟨_, _, _, rfl, lead?_eq_some.mpr (.inr (.inr (.inr ⟨?_, rfl⟩))), ⟨rfl, ?_, ?_⟩, ?_⟩
    · simp; omega
    · simp [apply_ite UInt8.toNat]; split <;> split <;> omega
    · simp; omega
    · simp [Lead.number]; omega

/-- The four forms of a character, with the ranges of their bytes and their numbers. -/
theorem forms (hl : lead? a = some l) (h : l.Completes fs) :
    (fs = [] ∧ a.toNat < 0x80 ∧ l.number fs = a.toNat) ∨
    (∃ b, fs = [b] ∧ (0xC2 ≤ a.toNat ∧ a.toNat < 0xE0) ∧ (0x80 ≤ b.toNat ∧ b.toNat ≤ 0xBF) ∧
      l.number fs = (a.toNat - 0xC0) * 64 + (b.toNat - 0x80)) ∨
    (∃ b d, fs = [b, d] ∧ (0xE0 ≤ a.toNat ∧ a.toNat < 0xF0) ∧
      (0x80 ≤ b.toNat ∧ b.toNat ≤ 0xBF) ∧ (0x80 ≤ d.toNat ∧ d.toNat ≤ 0xBF) ∧
      (a.toNat = 0xE0 → 0xA0 ≤ b.toNat) ∧ (a.toNat = 0xED → b.toNat ≤ 0x9F) ∧
      l.number fs = ((a.toNat - 0xE0) * 64 + (b.toNat - 0x80)) * 64 + (d.toNat - 0x80)) ∨
    (∃ b d e, fs = [b, d, e] ∧ (0xF0 ≤ a.toNat ∧ a.toNat < 0xF5) ∧
      (0x80 ≤ b.toNat ∧ b.toNat ≤ 0xBF) ∧ (0x80 ≤ d.toNat ∧ d.toNat ≤ 0xBF) ∧
      (0x80 ≤ e.toNat ∧ e.toNat ≤ 0xBF) ∧
      (a.toNat = 0xF0 → 0x90 ≤ b.toNat) ∧ (a.toNat = 0xF4 → b.toNat ≤ 0x8F) ∧
      l.number fs = (((a.toNat - 0xF0) * 64 + (b.toNat - 0x80)) * 64 + (d.toNat - 0x80)) * 64 +
        (e.toNat - 0x80)) := by
  obtain ⟨hlength, hfirst, hfurther⟩ := h
  rcases lead?_eq_some.mp hl with ⟨ha, rfl⟩ | ⟨ha, rfl⟩ | ⟨ha, rfl⟩ | ⟨ha, rfl⟩
  · obtain rfl := List.length_eq_zero_iff.mp hlength
    exact .inl ⟨rfl, ha, rfl⟩
  · obtain ⟨b, rfl⟩ := List.length_eq_one_iff.mp hlength
    exact .inr (.inl ⟨b, rfl, ha, hfirst b rfl, rfl⟩)
  · obtain ⟨b, d, rfl⟩ := List.length_eq_two.mp hlength
    have hb := hfirst b rfl
    simp only [apply_ite UInt8.toNat, UInt8.reduceToNat] at hb
    refine .inr (.inr (.inl ⟨b, d, rfl, ha, ?_, hfurther d (by simp), ?_, ?_, rfl⟩))
    all_goals split at hb <;> split at hb <;> omega
  · obtain ⟨b, d, e, rfl⟩ := List.length_eq_three.mp hlength
    have hb := hfirst b rfl
    simp only [apply_ite UInt8.toNat, UInt8.reduceToNat] at hb
    refine .inr (.inr (.inr ⟨b, d, e, rfl, ha, ?_, hfurther d (by simp), hfurther e (by simp), ?_, ?_,
      rfl⟩))
    all_goals split at hb <;> split at hb <;> omega

/-- The ranges leave out the surrogates and what is past the last character. -/
theorem isScalar_number (hl : lead? a = some l) (h : l.Completes fs) : IsScalar (l.number fs) := by
  unfold IsScalar
  rcases forms hl h with ⟨-, ha, hn⟩ | ⟨b, -, ha, hb, hn⟩ | ⟨b, d, -, ha, hb, hd, hlow, hhigh, hn⟩ |
    ⟨b, d, e, -, ha, hb, hd, he, hlow, hhigh, hn⟩
  · omega
  · omega
  · omega
  · omega

/-- The ranges leave out the numbers that have a shorter form. -/
theorem encodeChar_of_completes (hl : lead? a = some l) (h : l.Completes fs)
    (hc : c.toNat = l.number fs) : encodeChar c = a :: fs := by
  simp only [encodeChar, Nat.pow_eq, Nat.reducePow, hc]
  generalize hn : l.number fs = n
  rcases forms hl h with ⟨rfl, ha, hn'⟩ | ⟨b, rfl, ha, hb, hn'⟩ |
    ⟨b, d, rfl, ha, hb, hd, hlow, -, hn'⟩ | ⟨b, d, e, rfl, ha, hb, hd, he, hlow, -, hn'⟩
  · rw [if_pos (by omega), ofNat_eq (a := a) (by omega)]
  · rw [if_neg (by omega), if_pos (by omega), ofNat_eq (a := a) (by omega),
      ofNat_eq (a := b) (by omega)]
  · rw [if_neg (by omega), if_neg (by omega), if_pos (by omega), ofNat_eq (a := a) (by omega),
      ofNat_eq (a := b) (by omega), ofNat_eq (a := d) (by omega)]
  · rw [if_neg (by omega), if_neg (by omega), if_neg (by omega), ofNat_eq (a := a) (by omega),
      ofNat_eq (a := b) (by omega), ofNat_eq (a := d) (by omega), ofNat_eq (a := e) (by omega)]

/-- A character is read exactly where it is written. -/
theorem next?_eq_some_iff : next? bs = some (c, rest) ↔ bs = encodeChar c ++ rest := by
  constructor
  · intro h
    cases bs with
    | nil => simp [next?] at h
    | cons a bs =>
      obtain ⟨l, fs, hl, hfs, rfl, rfl⟩ := next?_cons_eq_some.mp h
      rw [encodeChar_of_completes hl hfs (toNat_ofNat (isScalar_number hl hfs)), List.cons_append]
  · rintro rfl
    obtain ⟨a, l, fs, hencode, hl, hfs, hnumber⟩ := exists_lead c
    rw [hencode, List.cons_append]
    exact next?_cons_eq_some.mpr ⟨l, fs, hl, hfs, rfl, by rw [hnumber, Char.ofNat_toNat]⟩

/-- The standard library writes characters in the same way. -/
theorem encodeChar_eq (c : Char) : encodeChar c = String.utf8EncodeChar c := by
  have hscalar := isScalar_toNat c
  unfold IsScalar at hscalar
  have hval : c.val.toNat = c.toNat := rfl
  simp only [encodeChar, String.utf8EncodeChar, Nat.pow_eq, Nat.reducePow, hval]
  generalize c.toNat = n at hscalar
  have hlast (k : Nat) : 0x80 + k % 64 = k % 64 + 128 := Nat.add_comm _ _
  by_cases hone : n < 0x80
  · rw [if_pos hone, if_pos (by omega)]
  by_cases htwo : n < 0x800
  · have hfirst : 0xC0 + n / 64 = n / 64 % 32 + 192 := by omega
    rw [if_neg hone, if_pos htwo, if_neg (by omega), if_pos (by omega), hfirst, hlast, Nat.div_one]
  by_cases hthree : n < 0x10000
  · have hfirst : 0xE0 + n / 4096 = n / 4096 % 16 + 224 := by omega
    rw [if_neg hone, if_neg htwo, if_pos hthree, if_neg (by omega), if_neg (by omega),
      if_pos (by omega), hfirst, hlast, hlast, Nat.div_one]
  · have hfirst : 0xF0 + n / 262144 = n / 262144 % 8 + 240 := by omega
    rw [if_neg hone, if_neg htwo, if_neg hthree, if_neg (by omega), if_neg (by omega),
      if_neg (by omega), hfirst, hlast, hlast, hlast, Nat.div_one]

/-! ## A whole text -/

theorem encode_eq (cs : Text) : encode cs = cs.utf8 :=
  List.flatMap_congr fun c _ => encodeChar_eq c

theorem encode_cons (c : Char) (cs : Text) : encode (c :: cs) = encodeChar c ++ encode cs :=
  List.flatMap_cons

theorem advance_of_some (h : next? bs = some (c, rest)) :
    advance bs = (c :: (advance rest).1, (advance rest).2) := by
  rw [advance]
  split
  · next hnone =>
    rw [h] at hnone
    cases hnone
  · next x left hsome =>
    rw [h] at hsome
    cases hsome
    rfl

theorem advance_of_none (h : next? bs = none) : advance bs = ([], bs) := by
  rw [advance]
  split
  · rfl
  · next x left hsome =>
    rw [h] at hsome
    cases hsome

/-- Decoding takes back what encoding wrote. -/
theorem advance_encode (cs : Text) : advance (encode cs) = (cs, []) := by
  induction cs with
  | nil => exact advance_of_none rfl
  | cons c cs ih => rw [advance_of_some (next?_eq_some_iff.mpr (encode_cons c cs)), ih]

/-- What was read is written before what is left. -/
theorem eq_encode_of_advance (h : advance bs = (cs, left)) : bs = encode cs ++ left := by
  induction bs using advance.induct generalizing cs with
  | case1 bs hnone =>
    rw [advance_of_none hnone] at h
    cases h
    rfl
  | case2 bs c rest hsome cs' left' hrest ih =>
    rw [advance_of_some hsome, hrest] at h
    cases h
    rw [next?_eq_some_iff.mp hsome, encode_cons, List.append_assoc, ← ih hrest]

theorem advance_of_decode (h : decode bs = .ok cs) : advance bs = (cs, []) := by
  unfold decode at h
  split at h
  · next hadvance =>
    cases h
    exact hadvance
  · cases h

/-- Bytes are read as a text exactly if the text is written as these bytes. -/
theorem decode_eq_ok : decode bs = .ok cs ↔ bs = encode cs := by
  constructor
  · intro h
    rw [eq_encode_of_advance (advance_of_decode h), List.append_nil]
  · rintro rfl
    rw [decode, advance_encode]

theorem decode_utf8 (cs : Text) : decode cs.utf8 = .ok cs :=
  decode_eq_ok.mpr (encode_eq cs).symm

/-- A text that fits into one chunk is read as a whole. -/
theorem decodeStream_encode (h : (encode cs).length ≤ chunkSize) :
    decodeStream (encode cs) = ⟨cs, none⟩ := by
  rw [decodeStream, chunks, dif_pos (.inl h)]
  split
  · next hempty =>
    have hcs : cs = [] := by
      have hadvance := advance_encode cs
      rw [List.isEmpty_iff.mp hempty, advance_of_none rfl] at hadvance
      exact (congrArg Prod.fst hadvance).symm
    rw [hcs]
    rfl
  · simp [decodeChunks, advance_encode]

/-- Only the bytes that the standard library writes for a text are decoded to it. -/
theorem eq_utf8_of_decode (h : decode bs = .ok cs) : bs = cs.utf8 :=
  (decode_eq_ok.mp h).trans (encode_eq cs)

end Utf8
end StoryBlanks
