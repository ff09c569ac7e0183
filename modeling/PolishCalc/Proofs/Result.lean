/-!
# Results of several parts

What a result that was put together says about its parts.
-/

namespace PolishCalc

variable {ε ε' α β : Type}

theorem bind_eq_ok {x : Except ε α} {f : α → Except ε β} {b : β}
    (success : (x >>= f) = .ok b) : ∃ a, x = .ok a ∧ f a = .ok b := by
  cases x with
  | error e => cases success
  | ok a => exact ⟨a, rfl, success⟩

theorem map_eq_ok {x : Except ε α} {f : α → β} {b : β} (success : x.map f = .ok b) :
    ∃ a, x = .ok a ∧ f a = b := by
  cases x with
  | error e => cases success
  | ok a => exact ⟨a, rfl, Except.ok.inj success⟩

theorem mapError_eq_ok {x : Except ε α} {f : ε → ε'} {a : α} (success : x.mapError f = .ok a) :
    x = .ok a := by
  cases x with
  | error e => cases success
  | ok b => exact congrArg Except.ok (Except.ok.inj success)

end PolishCalc
