import Mathlib.Data.List.Forall2

/-!
# Results of chained operations

What the result of a chain of operations says of its links: the whole succeeds just when every
link does, and a failure of the whole is the failure of one of them.
-/
namespace StoryBlanks.Result

variable {ε ε' α β : Type}

theorem bind_eq_ok {x : Except ε α} {f : α → Except ε β} {b : β} :
    x >>= f = .ok b ↔ ∃ a, x = .ok a ∧ f a = .ok b := by
  cases x <;> simp [bind, Except.bind]

/-- A chain fails with its first link, or with the second one where the first succeeds. -/
theorem bind_eq_error {x : Except ε α} {f : α → Except ε β} {e : ε} :
    x >>= f = .error e ↔ x = .error e ∨ ∃ a, x = .ok a ∧ f a = .error e := by
  cases x <;> simp [bind, Except.bind]

/-- Chains that agree on their first link apart from something, and go on alike from what agrees. -/
theorem bind_alike {γ δ : Type} {x y : Except ε α} {f g : α → Except ε β} {u : α → γ} {v : β → δ}
    (h : x.map u = y.map u) (hfg : ∀ a b, u a = u b → (f a).map v = (g b).map v) :
    (x >>= f).map v = (y >>= g).map v := by
  cases x with
  | error d =>
    cases y with
    | error e =>
      cases h
      rfl
    | ok b => cases h
  | ok a =>
    cases y with
    | error e => cases h
    | ok b => exact hfg a b (Except.ok.inj h)

theorem map_eq_ok {x : Except ε α} {f : α → β} {b : β} :
    x.map f = .ok b ↔ ∃ a, x = .ok a ∧ f a = b := by
  cases x <;> simp [Except.map]

theorem map_eq_error {x : Except ε α} {f : α → β} {e : ε} : x.map f = .error e ↔ x = .error e := by
  cases x <;> simp [Except.map]

theorem mapError_eq_ok {x : Except ε α} {f : ε → ε'} {a : α} :
    x.mapError f = .ok a ↔ x = .ok a := by
  cases x <;> simp [Except.mapError]

theorem mapError_eq_error {x : Except ε α} {f : ε → ε'} {e : ε'} :
    x.mapError f = .error e ↔ ∃ cause, x = .error cause ∧ f cause = e := by
  cases x <;> simp [Except.mapError]

theorem toOption_eq_some {x : Except ε α} {a : α} : x.toOption = some a ↔ x = .ok a := by
  cases x <;> simp [Except.toOption]

theorem exists_error_iff {x : Except ε α} : (∃ e, x = .error e) ↔ ¬ ∃ a, x = .ok a := by
  cases x <;> simp

theorem mapM_eq_ok {f : α → Except ε β} {xs : List α} {ys : List β} :
    xs.mapM f = .ok ys ↔ List.Forall₂ (fun x y => f x = .ok y) xs ys := by
  induction xs generalizing ys with
  | nil => cases ys <;> simp [pure, Except.pure]
  | cons x xs ih =>
    rw [List.mapM_cons, bind_eq_ok]
    constructor
    · rintro ⟨y, hy, h⟩
      obtain ⟨rest, hrest, he⟩ := bind_eq_ok.mp h
      cases he
      exact .cons hy (ih.mp hrest)
    · rintro (_ | ⟨hy, hrest⟩)
      exact ⟨_, hy, bind_eq_ok.mpr ⟨_, ih.mpr hrest, rfl⟩⟩

/-- Every element of a list has a counterpart if there is a list of them all. -/
theorem exists_forall₂_iff {R : α → β → Prop} {xs : List α} :
    (∃ ys, List.Forall₂ R xs ys) ↔ ∀ x ∈ xs, ∃ y, R x y := by
  induction xs with
  | nil => exact ⟨fun _ => List.forall_mem_nil _, fun _ => ⟨[], .nil⟩⟩
  | cons x xs ih =>
    rw [List.forall_mem_cons, ← ih]
    constructor
    · rintro ⟨_, _ | ⟨hfirst, hrest⟩⟩
      exact ⟨⟨_, hfirst⟩, _, hrest⟩
    · rintro ⟨⟨y, hfirst⟩, ys, hrest⟩
      exact ⟨y :: ys, .cons hfirst hrest⟩

/-- The error of a traversal is the error of one of its members. -/
theorem exists_mem_of_mapM_eq_error {f : α → Except ε β} {xs : List α} {e : ε}
    (h : xs.mapM f = .error e) : ∃ x ∈ xs, f x = .error e := by
  induction xs with
  | nil => simp [pure, Except.pure] at h
  | cons x xs ih =>
    rw [List.mapM_cons] at h
    cases hx : f x with
    | error d =>
      obtain rfl : d = e := by simpa [hx, bind, Except.bind] using h
      exact ⟨x, by simp, hx⟩
    | ok y =>
      cases hrest : xs.mapM f with
      | error d =>
        obtain rfl : d = e := by simpa [hx, hrest, bind, Except.bind] using h
        obtain ⟨z, hz, hfail⟩ := ih hrest
        exact ⟨z, by simp [hz], hfail⟩
      | ok ys => simp [hx, hrest, bind, Except.bind, pure, Except.pure] at h

theorem filterAuxM_eq_filter {p : α → Except ε Bool} {q : α → Bool} {xs kept : List α}
    (h : ∀ x ∈ xs, p x = .ok (q x)) :
    xs.filterAuxM p kept = .ok ((xs.filter q).reverse ++ kept) := by
  induction xs generalizing kept with
  | nil => rfl
  | cons x xs ih =>
    have hrest := @ih (bif q x then x :: kept else kept) fun y hy => h y (by simp [hy])
    rw [List.filterAuxM, h x List.mem_cons_self]
    cases hq : q x with
    | false => simpa [hq, bind, Except.bind] using hrest
    | true => simpa [hq, bind, Except.bind] using hrest

theorem exists_of_filterAuxM {p : α → Except ε Bool} {xs kept ys : List α}
    (h : xs.filterAuxM p kept = .ok ys) : ∀ x ∈ xs, ∃ b, p x = .ok b := by
  induction xs generalizing kept with
  | nil => simp
  | cons x xs ih =>
    obtain ⟨b, hb, hrest⟩ := bind_eq_ok.mp h
    exact List.forall_mem_cons.mpr ⟨⟨b, hb⟩, ih hrest⟩

/-- What is filtered out is what passes the test, and every test has a result. -/
theorem filterM_eq_ok {p : α → Except ε Bool} {xs ys : List α} :
    xs.filterM p = .ok ys ↔
      ∃ q : α → Bool, (∀ x ∈ xs, p x = .ok (q x)) ∧ ys = xs.filter q := by
  have hfilter {q : α → Bool} (hq : ∀ x ∈ xs, p x = .ok (q x)) :
      xs.filterM p = .ok (xs.filter q) := by
    rw [List.filterM, filterAuxM_eq_filter hq, List.append_nil]
    simp [bind, Except.bind, pure, Except.pure]
  constructor
  · intro h
    obtain ⟨kept, hkept, -⟩ := bind_eq_ok.mp h
    have hq (x : α) (hx : x ∈ xs) : p x = .ok ((p x).toOption.getD false) := by
      obtain ⟨b, hb⟩ := exists_of_filterAuxM hkept x hx
      rw [hb]
      rfl
    refine ⟨fun x => (p x).toOption.getD false, hq, ?_⟩
    rw [hfilter hq] at h
    cases h
    rfl
  · rintro ⟨q, hq, rfl⟩
    exact hfilter hq

/-- What is filtered out passed the test. -/
theorem of_mem_filterM {p : α → Except ε Bool} {xs ys : List α} (h : xs.filterM p = .ok ys) {y : α}
    (hy : y ∈ ys) : p y = .ok true := by
  obtain ⟨q, hq, rfl⟩ := filterM_eq_ok.mp h
  obtain ⟨hy, hpassed⟩ := List.mem_filter.mp hy
  rw [hq y hy, hpassed]

end StoryBlanks.Result
