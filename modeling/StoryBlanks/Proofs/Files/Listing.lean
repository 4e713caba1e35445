import StoryBlanks.Files.Tree
import Mathlib.Data.List.Basic
import Mathlib.Data.List.Nodup

/-!
# What a directory holds

The entries of a tree stand in some order, and so do the names in a directory when it is listed. Main
statements: a directory lists every name that is in it, and lists it once; and whatever is looked up
or read by its path does not depend on the order of the entries.
-/
namespace StoryBlanks

namespace Text

variable {s t : Text}

/-- Names are compared by their characters, from left to right. -/
theorem isAtMost_iff : isAtMost s t = true ↔ ¬ t < s := by
  fun_induction isAtMost s t with
  | case1 t => simp
  | case2 c s => simp
  | case3 c s d t ih =>
    have hlt : d < c ↔ d.toNat < c.toNat := Iff.rfl
    have heq : d = c ↔ d.toNat = c.toNat := Char.toNat_inj.symm
    rw [List.cons_lt_cons_iff, hlt, heq]
    simp only [Bool.or_eq_true, Bool.and_eq_true, decide_eq_true_eq, ih]
    by_cases hrest : t < s
    · simp only [hrest, not_true_eq_false, and_false, or_false, and_true]
      omega
    · simp only [hrest, not_false_eq_true, and_true, and_false, or_false]
      omega

theorem isAtMost_trans (s t u : Text) (hst : isAtMost s t = true) (htu : isAtMost t u = true) :
    isAtMost s u = true := by
  rw [isAtMost_iff, List.not_lt] at *
  exact List.le_trans hst htu

theorem isAtMost_total (s t : Text) : (isAtMost s t || isAtMost t s) = true := by
  rw [Bool.or_eq_true, isAtMost_iff, isAtMost_iff, List.not_lt, List.not_lt]
  exact List.le_total s t

/-- Different names that are sorted stand in strict order. -/
theorem pairwise_mergeSort {names : List Text} (h : names.Nodup) :
    (names.mergeSort isAtMost).Pairwise (· < ·) := by
  have hsorted := List.pairwise_mergeSort isAtMost_trans isAtMost_total names
  have hdistinct : (names.mergeSort isAtMost).Nodup := (List.mergeSort_perm names isAtMost).nodup_iff.mpr h
  refine (hsorted.and hdistinct).imp ?_
  rintro s t ⟨hle, hne⟩
  rw [isAtMost_iff] at hle
  by_contra hst
  exact hne (Std.Trichotomous.trichotomous s t hst hle)

theorem ne_of_lt (h : s < t) : s ≠ t := by
  rintro rfl
  exact List.lt_irrefl s h

/-- Names in strict order are told by which names there are. -/
theorem eq_of_pairwise {names names' : List Text} (h : names.Pairwise (· < ·))
    (h' : names'.Pairwise (· < ·)) (hmem : ∀ n, n ∈ names ↔ n ∈ names') : names = names' := by
  have hperm : names.Perm names' := by
    refine (List.perm_ext_iff_of_nodup ?_ ?_).mpr hmem
    · exact h.imp ne_of_lt
    · exact h'.imp ne_of_lt
  exact hperm.eq_of_pairwise (fun _ _ _ _ hlt hgt => absurd hgt (List.lt_asymm hlt)) h h'

end Text

namespace Tree

variable {t t' : Tree} {d : Path} {n : Text}

/-! ## Names in a directory -/

def HasName (t : Tree) (d : Path) (n : Text) : Prop :=
  ∃ place, t.resolve d = .ok place ∧ place ++ [n] ∈ t.entries.map Prod.fst

/-- What is listed at a place is the last name of what stands directly below it. -/
theorem last_eq_some {place there : Place} :
    (match there.getLast? with
      | some name => if there.dropLast = place then some name else none
      | none => none) = some n ↔ there = place ++ [n] := by
  rcases List.eq_nil_or_concat' there with rfl | ⟨front, last, rfl⟩
  · simp
  · rw [List.getLast?_concat, List.dropLast_concat]
    simp

theorem mem_namesAt {place : Place} :
    n ∈ t.namesAt place ↔ place ++ [n] ∈ t.entries.map Prod.fst := by
  unfold namesAt
  rw [List.mem_filterMap, List.mem_map]
  exact exists_congr fun x => and_congr_right fun _ => last_eq_some

theorem nodup_namesAt (t : Tree) (place : Place) : (t.namesAt place).Nodup := by
  have hdistinct : t.entries.Pairwise fun x y => x.1 ≠ y.1 := List.pairwise_map.mp t.distinct
  unfold namesAt
  rw [List.Nodup, List.pairwise_filterMap]
  refine hdistinct.imp ?_
  intro x y hne n hn m hm hnm
  have hx : x.1 = place ++ [n] := last_eq_some.mp hn
  have hy : y.1 = place ++ [m] := last_eq_some.mp hm
  exact hne (by rw [hx, hy, hnm])

/-- A directory can be listed, and lists what is in it. -/
theorem exists_list (h : t.isDirectory d = .ok true) :
    ∃ names, t.list d = .ok names ∧ names.Nodup ∧ ∀ n, n ∈ names ↔ t.HasName d n := by
  have hfind : t.find d = .ok .directory := by
    unfold isDirectory holds at h
    split at h
    · cases h
    · split at h
      · next e he =>
        cases e with
        | directory => exact he
        | file content => cases h
        | link target => cases h
      · cases h
      · cases h
  unfold find at hfind
  cases hplace : t.resolve d with
  | error reason =>
    rw [hplace] at hfind
    cases hfind
  | ok place =>
    have hthere : t.entry? place = some .directory := by
      cases he : t.entry? place with
      | none => simp [hplace, he, bind, Except.bind, throw, throwThe, MonadExceptOf.throw] at hfind
      | some e => simpa [hplace, he, bind, Except.bind, pure, Except.pure] using hfind
    refine ⟨t.namesAt place, ?_, t.nodup_namesAt place, fun n => ?_⟩
    · simp only [list, hplace, if_pos hthere]
    · simp [mem_namesAt, HasName, hplace]

/-! ## The order of the entries -/

structure Reorders (t t' : Tree) : Prop where
  entries : t.entries.Perm t'.entries
  here : t'.here = t.here

/-- An entry is found wherever it stands, since there is only one for a place. -/
theorem lookup_eq_some_iff_mem {α β : Type} [BEq α] [LawfulBEq α] {xs : List (α × β)}
    (h : (xs.map Prod.fst).Nodup) {a : α} {b : β} : xs.lookup a = some b ↔ (a, b) ∈ xs := by
  induction xs with
  | nil => simp
  | cons x xs ih =>
    obtain ⟨k, v⟩ := x
    rw [List.map_cons, List.nodup_cons] at h
    by_cases hk : a = k
    · subst hk
      have habsent : (a, b) ∉ xs := fun hmem => h.1 (List.mem_map.mpr ⟨(a, b), hmem, rfl⟩)
      simp [habsent, eq_comm]
    · have hne : (a == k) = false := by simpa using hk
      rw [List.lookup_cons, hne, List.mem_cons]
      simp [hk, ih h.2]

/-- The way that a path goes depends on what stands at each place and on nothing else. -/
theorem walk_eq (h : t'.entry? = t.entry?) (links : Nat) (place : Place) (steps : List Text) :
    t'.walk links place steps = t.walk links place steps := by
  fun_induction t.walk links place steps with
  | case1 => rw [walk]
  | case2 links place step steps hplace => rw [walk, h, if_pos hplace]
  | case3 links place steps hplace ih => rw [walk, h, if_neg hplace, if_pos rfl, ih]
  | case4 links place steps hplace hdot ih =>
    rw [walk, h, if_neg hplace, if_neg hdot, if_pos rfl, ih]
  | case5 links place step steps hplace hdot hdots hlong =>
    rw [walk, h, if_neg hplace, if_neg hdot, if_neg hdots, if_pos hlong]
  | case6 links place step steps hplace hdot hdots hshort hnone =>
    rw [walk, h, if_neg hplace, if_neg hdot, if_neg hdots, if_neg hshort, hnone]
  | case7 place step steps hplace hdot hdots hshort target hlink =>
    rw [walk, h, if_neg hplace, if_neg hdot, if_neg hdots, if_neg hshort, hlink]
  | case8 place step steps hplace hdot hdots hshort target hlink links start ih =>
    rw [walk, h, if_neg hplace, if_neg hdot, if_neg hdots, if_neg hshort, hlink]
    exact ih
  | case9 links place step steps hplace hdot hdots hshort e hother he ih =>
    rw [walk, h, if_neg hplace, if_neg hdot, if_neg hdots, if_neg hshort, he]
    cases e with
    | link target => exact absurd rfl (hother target)
    | file content => exact ih
    | directory => exact ih

namespace Reorders

theorem entry?_eq (h : t.Reorders t') : t'.entry? = t.entry? := by
  funext place
  have hlookup : t'.entries.lookup place = t.entries.lookup place := by
    refine Option.ext fun e => ?_
    rw [lookup_eq_some_iff_mem t'.distinct, lookup_eq_some_iff_mem t.distinct, h.entries.mem_iff]
  unfold entry?
  rw [h.here, hlookup]

theorem resolve_eq (h : t.Reorders t') : t'.resolve = t.resolve := by
  funext p
  rw [resolve, resolve, h.here]
  simp only [walk_eq h.entry?_eq]

/-- The order of the entries plays no part in where a path leads. -/
theorem find_eq (h : t.Reorders t') : t'.find = t.find := by
  funext p
  rw [find, find, h.resolve_eq, h.entry?_eq]

theorem holds_eq (h : t.Reorders t') : t'.holds = t.holds := by
  funext kind p
  rw [holds, holds, h.find_eq]

theorem isFile_eq (h : t.Reorders t') : t'.isFile = t.isFile := by
  funext p
  rw [isFile, isFile, h.holds_eq]

theorem isDirectory_eq (h : t.Reorders t') : t'.isDirectory = t.isDirectory := by
  funext p
  rw [isDirectory, isDirectory, h.holds_eq]

theorem read_eq (h : t.Reorders t') : t'.read = t.read := by
  funext p
  rw [read, read, h.find_eq]

theorem hasName_eq (h : t.Reorders t') : t'.HasName = t.HasName := by
  funext d n
  simp only [HasName, h.resolve_eq, (h.entries.map Prod.fst).mem_iff]

end Reorders
end Tree
end StoryBlanks
