import StoryBlanks.Journal

/-!
# Results with notes

Operations that leave notes obey the laws of chained operations, and what comes of a list of them
is what comes of their results alone.
-/
namespace StoryBlanks.Noted

variable {ε α β : Type}

protected theorem ext {m n : Noted ε α} (hresult : m.result = n.result) (hnotes : m.notes = n.notes) :
    m = n := by
  cases m
  cases n
  cases hresult
  cases hnotes
  rfl

@[simp] theorem bind_mk_ok (a : α) (notes : List Note) (f : α → Noted ε β) :
    (⟨.ok a, notes⟩ >>= f : Noted ε β) = ⟨(f a).result, notes ++ (f a).notes⟩ := rfl

theorem pure_eq_mk (a : α) : (pure a : Noted ε α) = ⟨.ok a, []⟩ := rfl

protected theorem id_map (m : Noted ε α) : id <$> m = m := by
  rcases m with ⟨e | a, notes⟩
  · rfl
  · exact Noted.ext rfl (List.append_nil notes)

protected theorem pure_bind (a : α) (f : α → Noted ε β) : pure a >>= f = f a := by
  rw [pure_eq_mk, bind_mk_ok, List.nil_append]

protected theorem bind_assoc {γ : Type} (m : Noted ε α) (f : α → Noted ε β) (g : β → Noted ε γ) :
    m >>= f >>= g = m >>= fun a => f a >>= g := by
  rcases m with ⟨e | a, notes⟩
  · rfl
  · rw [bind_mk_ok, bind_mk_ok]
    rcases f a with ⟨e | b, more⟩
    · rfl
    · simp

instance : LawfulMonad (Noted ε) :=
  LawfulMonad.mk' (Noted ε) Noted.id_map Noted.pure_bind Noted.bind_assoc

theorem result_map (f : α → β) (m : Noted ε α) : (f <$> m).result = m.result.map f := by
  rcases m with ⟨e | a, notes⟩ <;> rfl

/-- Notes have no say in the results of a list of operations. -/
@[simp] theorem result_mapM (f : α → Noted ε β) (xs : List α) :
    (xs.mapM f).result = xs.mapM fun x => (f x).result := by
  induction xs with
  | nil => rfl
  | cons x xs ih =>
    simp only [List.mapM_cons, result_bind, result_pure, ih]
    rfl

end StoryBlanks.Noted
