import Mathlib.Init

/-!
# A computation that checks before it answers

The `Except` monad as a list of checks: an answer means that every check let it through.
-/

namespace Tiai.Lib

/-- A step that let it through. -/
theorem ok_bind {ε α β : Type} (a : α) (f : α → Except ε β) : (Except.ok a >>= f) = f a := rfl

/-- A step that did not. -/
theorem error_bind {ε α β : Type} (e : ε) (f : α → Except ε β) : (Except.error e >>= f) = .error e := rfl

/-- What goes on alike after the same step answers alike. -/
theorem bind_congr_ok {ε α β : Type} {x : Except ε α} {f g : α → Except ε β}
    (h : ∀ a, x = .ok a → f a = g a) : (x >>= f) = x >>= g := by
  cases x with
  | error e => rw [error_bind, error_bind]
  | ok a => rw [ok_bind, ok_bind, h a rfl]

/-- An answer has been through every step. -/
theorem bind_eq_ok {ε α β : Type} {x : Except ε α} {f : α → Except ε β} {b : β}
    (h : (x >>= f) = .ok b) : ∃ a, x = .ok a ∧ f a = .ok b := by
  cases x with
  | error e => cases h
  | ok a => exact ⟨a, rfl, h⟩

end Tiai.Lib
