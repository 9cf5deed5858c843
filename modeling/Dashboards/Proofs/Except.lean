import Mathlib

/-!
# Steps that may fail

* `bind_ok` : the next step, once the first has succeeded;
* `bind_eq_ok`, `bind_eq_error` : where both succeed, and where one of them fails.
-/

namespace Dashboards

variable {ε α β : Type} {x : Except ε α} {f : α → Except ε β}

theorem bind_ok {a : α} (h : x = .ok a) : x >>= f = f a := by
  rw [h]
  rfl

theorem bind_eq_ok {b : β} (h : x >>= f = .ok b) : ∃ a, x = .ok a ∧ f a = .ok b := by
  cases x with
  | error e => cases h
  | ok a => exact ⟨a, rfl, h⟩

theorem bind_eq_error {e : ε} (h : x >>= f = .error e) : x = .error e ∨ ∃ a, x = .ok a ∧ f a = .error e := by
  cases x with
  | error e' => exact .inl (congrArg Except.error (Except.error.inj h))
  | ok a => exact .inr ⟨a, rfl, h⟩

end Dashboards
