import StoryBlanks.Proofs.Files.Listing

/-!
# The way that a path goes

One step leads to the same place, to the place above, into what stands below, or along a link. Main
statements: a walk arrives exactly if there are such steps to the end, it can be broken off and taken
up again at any place along the way, and more links than it follows do no harm. Where it goes does not
depend on what the files hold.
-/
namespace StoryBlanks

/-- An entry with the contents of a file left out. -/
def Entry.outline : Entry → Entry
  | .file _ => .file []
  | e => e

namespace Tree

def linkStart (target : Text) (place : Place) : Place :=
  if (Path.ofText target).isAbsolute then [] else place

structure IsDown (step : Text) : Prop where
  not_here : step ≠ ['.']
  not_up : step ≠ ['.', '.']
  short : (Utf8.encode step).length ≤ maxName

/-- Steps lead from a place to another one. `left` is how many of the links that may be followed have
not been. -/
inductive Leads (t : Tree) : Nat → Place → List Text → Place → Nat → Prop where
  | arrived {links place} : Leads t links place [] place links
  | here {links place steps last left} (hplace : t.entry? place = some .directory)
      (rest : Leads t links place steps last left) : Leads t links place (['.'] :: steps) last left
  | up {links place steps last left} (hplace : t.entry? place = some .directory)
      (rest : Leads t links place.dropLast steps last left) :
      Leads t links place (['.', '.'] :: steps) last left
  | down {links place step steps e last left} (hplace : t.entry? place = some .directory)
      (hstep : IsDown step) (hthere : t.entry? (place ++ [step]) = some e)
      (hnolink : ∀ target, e ≠ .link target)
      (rest : Leads t links (place ++ [step]) steps last left) :
      Leads t links place (step :: steps) last left
  | along {links place step steps target last left} (hplace : t.entry? place = some .directory)
      (hstep : IsDown step) (hthere : t.entry? (place ++ [step]) = some (.link target))
      (rest : Leads t links (linkStart target place) (stepsOf target ++ steps) last left) :
      Leads t (links + 1) place (step :: steps) last left

variable {t t' : Tree} {links left : Nat} {place last : Place} {step : Text} {steps : List Text}

/-- By induction along the recursion of `walk`, whose cases are the rules of `Leads`. -/
theorem leads_of_walk (h : t.walk links place steps = .ok last) :
    ∃ left, t.Leads links place steps last left := by
  revert h
  fun_induction t.walk links place steps with
  | case1 links place =>
    intro h
    cases h
    exact ⟨links, .arrived⟩
  | case2 =>
    intro h
    cases h
  | case3 links place steps hplace ih =>
    intro h
    obtain ⟨left, hrest⟩ := ih h
    exact ⟨left, .here (Decidable.not_not.mp hplace) hrest⟩
  | case4 links place steps hplace hdot ih =>
    intro h
    obtain ⟨left, hrest⟩ := ih h
    exact ⟨left, .up (Decidable.not_not.mp hplace) hrest⟩
  | case5 | case6 | case7 =>
    intro h
    cases h
  | case8 place step steps hplace hdot hdots hshort target hlink links start ih =>
    intro h
    obtain ⟨left, hrest⟩ := ih h
    exact ⟨left, .along (Decidable.not_not.mp hplace) ⟨hdot, hdots, Nat.not_lt.mp hshort⟩ hlink hrest⟩
  | case9 links place step steps hplace hdot hdots hshort e hnolink hthere ih =>
    intro h
    obtain ⟨left, hrest⟩ := ih h
    exact ⟨left, .down (Decidable.not_not.mp hplace) ⟨hdot, hdots, Nat.not_lt.mp hshort⟩ hthere
      (fun target he => hnolink target he) hrest⟩

theorem Leads.walk_eq (h : t.Leads links place steps last left) :
    t.walk links place steps = .ok last := by
  induction h with
  | arrived => rw [walk]
  | here hplace _ ih => rw [walk, if_neg (not_not_intro hplace), if_pos rfl, ih]
  | up hplace _ ih =>
    rw [walk, if_neg (not_not_intro hplace), if_neg (by decide), if_pos rfl, ih]
  | @down links place step steps e last left hplace hstep hthere hnolink _ ih =>
    rw [walk, if_neg (not_not_intro hplace), if_neg hstep.not_here, if_neg hstep.not_up,
      if_neg (Nat.not_lt.mpr hstep.short), hthere]
    cases e with
    | link target => exact absurd rfl (hnolink target)
    | file content => exact ih
    | directory => exact ih
  | along hplace hstep hthere _ ih =>
    rw [walk, if_neg (not_not_intro hplace), if_neg hstep.not_here, if_neg hstep.not_up,
      if_neg (Nat.not_lt.mpr hstep.short), hthere]
    exact ih

theorem walk_eq_ok : t.walk links place steps = .ok last ↔
    ∃ left, t.Leads links place steps last left :=
  ⟨leads_of_walk, fun ⟨_, h⟩ => h.walk_eq⟩

namespace Leads

/-- Links that are not followed do no harm. -/
theorem mono (h : t.Leads links place steps last left) (more : Nat) :
    t.Leads (links + more) place steps last (left + more) := by
  induction h with
  | arrived => exact .arrived
  | here hplace _ ih => exact .here hplace ih
  | up hplace _ ih => exact .up hplace ih
  | down hplace hstep hthere hnolink _ ih => exact .down hplace hstep hthere hnolink ih
  | @along links _ _ _ _ _ _ hplace hstep hthere _ ih =>
    rw [Nat.add_right_comm]
    exact .along hplace hstep hthere ih

theorem left_le (h : t.Leads links place steps last left) : left ≤ links := by
  induction h with
  | arrived => exact Nat.le_refl _
  | here _ _ ih => exact ih
  | up _ _ ih => exact ih
  | down _ _ _ _ _ ih => exact ih
  | along _ _ _ _ ih => exact Nat.le_succ_of_le ih

/-- More links than are needed do no harm. -/
theorem walk_of_le (h : t.Leads links place steps last left) {n : Nat} (hn : links ≤ n) :
    t.walk n place steps = .ok last := by
  obtain ⟨more, rfl⟩ := Nat.exists_eq_add_of_le hn
  exact (h.mono more).walk_eq

/-- A walk can be broken off and taken up again with the links that are left. -/
theorem split {xs ys : List Text} (h : t.Leads links place (xs ++ ys) last left) :
    ∃ mid rest, t.Leads links place xs mid rest ∧ t.Leads rest mid ys last left := by
  generalize hsteps : xs ++ ys = steps at h
  induction h generalizing xs with
  | @arrived links place =>
    obtain ⟨rfl, rfl⟩ := List.append_eq_nil_iff.mp hsteps
    exact ⟨place, links, .arrived, .arrived⟩
  | @here links place steps last left hplace hrest ih =>
    cases xs with
    | nil =>
      obtain rfl : ys = _ := hsteps
      exact ⟨place, links, .arrived, .here hplace hrest⟩
    | cons x xs =>
      cases hsteps
      obtain ⟨mid, rest, hxs, hys⟩ := ih rfl
      exact ⟨mid, rest, .here hplace hxs, hys⟩
  | @up links place steps last left hplace hrest ih =>
    cases xs with
    | nil =>
      obtain rfl : ys = _ := hsteps
      exact ⟨place, links, .arrived, .up hplace hrest⟩
    | cons x xs =>
      cases hsteps
      obtain ⟨mid, rest, hxs, hys⟩ := ih rfl
      exact ⟨mid, rest, .up hplace hxs, hys⟩
  | @down links place step steps e last left hplace hstep hthere hnolink hrest ih =>
    cases xs with
    | nil =>
      obtain rfl : ys = _ := hsteps
      exact ⟨place, links, .arrived, .down hplace hstep hthere hnolink hrest⟩
    | cons x xs =>
      cases hsteps
      obtain ⟨mid, rest, hxs, hys⟩ := ih rfl
      exact ⟨mid, rest, .down hplace hstep hthere hnolink hxs, hys⟩
  | @along links place step steps target last left hplace hstep hthere hrest ih =>
    cases xs with
    | nil =>
      obtain rfl : ys = _ := hsteps
      exact ⟨place, links + 1, .arrived, .along hplace hstep hthere hrest⟩
    | cons x xs =>
      cases hsteps
      obtain ⟨mid, rest, hxs, hys⟩ := ih (List.append_assoc _ _ _)
      exact ⟨mid, rest, .along hplace hstep hthere hxs, hys⟩

end Leads

/-! ## Other contents -/

def outline? (t : Tree) (place : Place) : Option Entry := Option.map Entry.outline <| t.entry? place

/-- The trees have the same entries everywhere, up to what the files hold. -/
def SameOutline (t t' : Tree) : Prop := ∀ place, t'.outline? place = t.outline? place

theorem SameOutline.symm (h : t.SameOutline t') : t'.SameOutline t := fun place => (h place).symm

/-- What is no file is the same in both. -/
theorem SameOutline.entry?_eq (h : t.SameOutline t') {e : Entry} (he : t.entry? place = some e)
    (hfile : ∀ content, e ≠ .file content) : t'.entry? place = some e := by
  have hplace := h place
  rw [outline?, outline?, he] at hplace
  cases he' : t'.entry? place with
  | none =>
    rw [he'] at hplace
    cases hplace
  | some e' =>
    rw [he'] at hplace
    cases e with
    | file content => exact absurd rfl (hfile content)
    | directory => cases e' <;> simp_all [Entry.outline]
    | link target => cases e' <;> simp_all [Entry.outline]

/-- A file is a file in both. -/
theorem SameOutline.exists_file (h : t.SameOutline t') {content : Utf8.Bytes}
    (he : t.entry? place = some (.file content)) :
    ∃ content', t'.entry? place = some (.file content') := by
  have hplace := h place
  rw [outline?, outline?, he] at hplace
  cases he' : t'.entry? place with
  | none =>
    rw [he'] at hplace
    cases hplace
  | some e' => cases e' <;> simp_all [Entry.outline]

theorem Leads.of_sameOutline (h : t.Leads links place steps last left) (hsame : t.SameOutline t') :
    t'.Leads links place steps last left := by
  induction h with
  | arrived => exact .arrived
  | here hplace _ ih => exact .here (hsame.entry?_eq hplace (by simp)) ih
  | up hplace _ ih => exact .up (hsame.entry?_eq hplace (by simp)) ih
  | @down links place step steps e last left hplace hstep hthere hnolink _ ih =>
    have hplace' := hsame.entry?_eq hplace (by simp)
    cases e with
    | file content =>
      obtain ⟨content', hthere'⟩ := hsame.exists_file hthere
      exact .down hplace' hstep hthere' (by simp) ih
    | directory => exact .down hplace' hstep (hsame.entry?_eq hthere (by simp)) (by simp) ih
    | link target => exact absurd rfl (hnolink target)
  | along hplace hstep hthere _ ih =>
    exact .along (hsame.entry?_eq hplace (by simp)) hstep (hsame.entry?_eq hthere (by simp)) ih

end Tree
end StoryBlanks
