import Mathlib.Init

/-!
# Results

A computation that may fail gives an error or a value. One that consists of steps gives a value
exactly when every step does, each from what the step before it gave.
-/

namespace Results

variable {ε α β : Type}

theorem bind_eq_ok_iff {x : Except ε α} {f : α → Except ε β} {b : β} :
    (x >>= f) = .ok b ↔ ∃ a, x = .ok a ∧ f a = .ok b := by
  cases x with
  | error e =>
    constructor
    · intro h
      cases h
    · intro h
      obtain ⟨_, none, -⟩ := h
      cases none
  | ok a =>
    constructor
    · intro h
      exact ⟨a, rfl, h⟩
    · intro h
      obtain ⟨_, same, made⟩ := h
      cases same
      exact made

/-- A check has no value to go on with. -/
theorem check_eq_ok_iff {x : Except ε Unit} {y : Except ε β} {b : β} :
    (x >>= fun _ => y) = .ok b ↔ x = .ok () ∧ y = .ok b := by
  rw [bind_eq_ok_iff]
  constructor
  · intro h
    obtain ⟨_, ok, made⟩ := h
    exact ⟨ok, made⟩
  · intro h
    exact ⟨(), h⟩

end Results
