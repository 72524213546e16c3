/-!
  Results of computations that can fail, taken apart.

  A computation that is put together from others succeeds only if these do: what it comes to is made of what
  they come to.
-/

namespace Switchyard

variable {ε ε' α β : Type}

/-- One computation after another succeeds if the first does, and then the second with what it came to. -/
theorem Except.ok_of_bind {x : Except ε α} {f : α → Except ε β} {b : β}
    (h : x >>= f = .ok b) : ∃ a, x = .ok a ∧ f a = .ok b := by
  cases x with
  | error e => cases h
  | ok a => exact ⟨a, rfl, h⟩

/-- What is made of a result is made of a result. -/
theorem Except.ok_of_map {x : Except ε α} {f : α → β} {b : β} (h : x.map f = .ok b) :
    ∃ a, x = .ok a ∧ f a = b := by
  cases x with
  | error e => cases h
  | ok a => exact ⟨a, rfl, Except.ok.inj h⟩

/-- Putting a failure in other terms leaves what a success came to. -/
theorem Except.ok_of_mapError {x : Except ε α} {f : ε → ε'} {a : α} (h : x.mapError f = .ok a) :
    x = .ok a := by
  cases x with
  | error e => cases h
  | ok a' => exact congrArg _ (Except.ok.inj h)

/-- A computation that has a result comes to it. -/
theorem Except.eq_ok_of_toOption {x : Except ε α} {a : α} (h : x.toOption = some a) : x = .ok a := by
  cases x with
  | error e => cases h
  | ok a' => exact congrArg _ (Option.some.inj h)

end Switchyard
