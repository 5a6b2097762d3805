/-!
# Computations that may fail

A computation in stages gives a result exactly if every stage does and every condition on the way
holds.

## Main results

* `map_eq_ok_iff`, `map_eq_error_iff` — a stage whose result is only rewritten
* `toOption_eq_some_iff` — a result whose error does not matter
* `bind_eq_ok_iff` — two stages, one after the other
* `ite_throw_bind_eq_ok_iff` — a stage behind a condition that refuses
-/

namespace SealedLink

variable {ε α β : Type}

theorem map_eq_ok_iff {x : Except ε α} {f : α → β} {b : β} :
    x.map f = .ok b ↔ ∃ a, x = .ok a ∧ f a = b := by
  cases x <;> simp [Except.map]

theorem map_eq_error_iff {x : Except ε α} {f : α → β} {e : ε} :
    x.map f = .error e ↔ x = .error e := by
  cases x <;> simp [Except.map]

theorem toOption_eq_some_iff {x : Except ε α} {a : α} : x.toOption = some a ↔ x = .ok a := by
  cases x <;> simp [Except.toOption]

theorem bind_eq_ok_iff {x : Except ε α} {f : α → Except ε β} {b : β} :
    (x >>= f) = .ok b ↔ ∃ a, x = .ok a ∧ f a = .ok b := by
  cases x <;> simp [bind, Except.bind]

theorem ite_throw_bind_eq_ok_iff {p : Prop} [Decidable p] {e : ε} {f : α → Except ε β}
    {x : Except ε β} {b : β} :
    (if p then throw e >>= f else x) = .ok b ↔ ¬ p ∧ x = .ok b := by
  by_cases h : p <;> simp [h, bind, Except.bind, throw, throwThe, MonadExceptOf.throw]

end SealedLink
