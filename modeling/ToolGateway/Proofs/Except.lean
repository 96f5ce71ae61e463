import Mathlib.Data.List.Forall2

/-!
# Computations that succeed, and computations that fail

A computation in `Except` succeeds exactly when each of its steps does, and it fails with the error of
the first step that fails. Stated once for the combinators, so that what a computation comes to is
read off step by step.
-/

namespace ToolGateway

variable {ε ε' α β : Type}

theorem bind_eq_ok_iff {x : Except ε α} {f : α → Except ε β} {b : β} :
    (x >>= f) = .ok b ↔ ∃ a, x = .ok a ∧ f a = .ok b := by
  cases x with
  | error error => simp [bind, Except.bind]
  | ok a => simp [bind, Except.bind]

theorem bind_eq_error_iff {x : Except ε α} {f : α → Except ε β} {error : ε} :
    (x >>= f) = .error error ↔ x = .error error ∨ ∃ a, x = .ok a ∧ f a = .error error := by
  cases x with
  | error cause => simp [bind, Except.bind]
  | ok a => simp [bind, Except.bind]

theorem map_eq_ok_iff {x : Except ε α} {f : α → β} {b : β} :
    x.map f = .ok b ↔ ∃ a, x = .ok a ∧ f a = b := by
  cases x <;> simp [Except.map]

theorem map_eq_error_iff {x : Except ε α} {f : α → β} {error : ε} :
    x.map f = .error error ↔ x = .error error := by
  cases x <;> simp [Except.map]

theorem mapError_eq_ok_iff {x : Except ε α} {f : ε → ε'} {a : α} :
    x.mapError f = .ok a ↔ x = .ok a := by
  cases x <;> simp [Except.mapError]

theorem mapError_eq_error_iff {x : Except ε α} {f : ε → ε'} {error : ε'} :
    x.mapError f = .error error ↔ ∃ cause, x = .error cause ∧ f cause = error := by
  cases x <;> simp [Except.mapError]

theorem toOption_eq_some_iff {x : Except ε α} {a : α} : x.toOption = some a ↔ x = .ok a := by
  cases x <;> simp [Except.toOption]

theorem mapM_eq_ok_iff {f : α → Except ε β} {items : List α} {results : List β} :
    items.mapM f = .ok results ↔
      List.Forall₂ (fun item result => f item = .ok result) items results := by
  induction items generalizing results with
  | nil => cases results <;> simp [pure, Except.pure]
  | cons item rest ih =>
    rw [List.mapM_cons, bind_eq_ok_iff]
    simp only [bind_eq_ok_iff, ih]
    constructor
    · rintro ⟨first, done, others, all, same⟩
      obtain rfl := Except.ok.inj same
      exact .cons done all
    · rintro (_ | ⟨done, all⟩)
      exact ⟨_, done, _, all, rfl⟩

/-- Items can all be done one after the other exactly if each of them can be done. -/
theorem exists_mapM_iff {f : α → Except ε β} {items : List α} :
    (∃ results, items.mapM f = .ok results) ↔ ∀ item ∈ items, ∃ result, f item = .ok result := by
  induction items with
  | nil => simp [pure, Except.pure]
  | cons first rest ih =>
    rw [List.forall_mem_cons, ← ih, List.mapM_cons]
    constructor
    · rintro ⟨results, done⟩
      obtain ⟨result, here, done⟩ := bind_eq_ok_iff.mp done
      obtain ⟨others, later, -⟩ := bind_eq_ok_iff.mp done
      exact ⟨⟨result, here⟩, others, later⟩
    · rintro ⟨⟨result, here⟩, others, later⟩
      exact ⟨_, bind_eq_ok_iff.mpr ⟨result, here, bind_eq_ok_iff.mpr ⟨others, later, rfl⟩⟩⟩

/-- Items done one after the other fail with the first that fails, after all those before it. -/
theorem mapM_eq_error_iff {f : α → Except ε β} {items : List α} {error : ε} :
    items.mapM f = .error error ↔ ∃ before item after, items = before ++ item :: after ∧
      (∀ other ∈ before, ∃ result, f other = .ok result) ∧ f item = .error error := by
  induction items with
  | nil =>
    rw [List.mapM_nil]
    constructor
    · intro failed
      cases failed
    · rintro ⟨before, item, after, split, -⟩
      simp at split
  | cons first rest ih =>
    rw [List.mapM_cons, bind_eq_error_iff]
    constructor
    · rintro (failed | ⟨result, done, failed⟩)
      · exact ⟨[], first, rest, rfl, by simp, failed⟩
      · have failed : rest.mapM f = .error error := by
          rcases bind_eq_error_iff.mp failed with failed | ⟨results, -, finished⟩
          · exact failed
          · cases finished
        obtain ⟨before, item, after, rfl, fine, failed⟩ := ih.mp failed
        exact ⟨first :: before, item, after, rfl, List.forall_mem_cons.mpr ⟨⟨result, done⟩, fine⟩,
          failed⟩
    · rintro ⟨before, item, after, split, fine, failed⟩
      cases before with
      | nil =>
        obtain ⟨rfl, rfl⟩ := List.cons.inj split
        exact .inl failed
      | cons other before =>
        obtain ⟨rfl, rfl⟩ := List.cons.inj split
        obtain ⟨⟨result, done⟩, fine⟩ := List.forall_mem_cons.mp fine
        have failed := ih.mpr ⟨before, item, after, rfl, fine, failed⟩
        exact .inr ⟨result, done, bind_eq_error_iff.mpr (.inl failed)⟩

/-- Items taken up one after the other fail with the first that fails in the state reached there. -/
theorem foldlM_eq_error_iff {f : β → α → Except ε β} {items : List α} {initial : β} {error : ε} :
    items.foldlM f initial = .error error ↔ ∃ before item after state,
      items = before ++ item :: after ∧ before.foldlM f initial = .ok state ∧
        f state item = .error error := by
  induction items generalizing initial with
  | nil =>
    rw [List.foldlM_nil]
    constructor
    · intro failed
      cases failed
    · rintro ⟨before, item, after, state, split, -⟩
      simp at split
  | cons first rest ih =>
    rw [List.foldlM_cons, bind_eq_error_iff]
    simp only [ih]
    constructor
    · rintro (failed | ⟨next, done, before, item, after, state, rfl, reached, failed⟩)
      · exact ⟨[], first, rest, initial, rfl, rfl, failed⟩
      · refine ⟨first :: before, item, after, state, rfl, ?_, failed⟩
        rw [List.foldlM_cons]
        exact bind_eq_ok_iff.mpr ⟨next, done, reached⟩
    · rintro ⟨before, item, after, state, split, reached, failed⟩
      cases before with
      | nil =>
        obtain ⟨rfl, rfl⟩ := List.cons.inj split
        obtain rfl := Except.ok.inj reached
        exact .inl failed
      | cons other before =>
        obtain ⟨rfl, rfl⟩ := List.cons.inj split
        rw [List.foldlM_cons] at reached
        obtain ⟨next, done, reached⟩ := bind_eq_ok_iff.mp reached
        exact .inr ⟨next, done, before, item, after, state, rfl, reached, failed⟩

end ToolGateway
