/-!
# Runs of a stateful function

A function that answers and changes a state is run on a list of inputs, each in the state that the
inputs before it lead to. A run is known by its answers and by the state at its end. An input that
leaves the state as it is can be left out: no other answer changes, and neither does the end.

## Main definitions

* `Run.final`, `Run.answers` — the end of a run and its answers
* `Run.without` — a list without the elements at some places

## Main results

* `Run.final_of_forall` — what every step keeps holds at the end of a run
* `Run.getElem?_answers` — an answer is given in the state that the inputs before it lead to
* `Run.without_idle` — idle inputs can be left out
-/

namespace SealedLink.Run

variable {ι σ α : Type} {step : ι → σ → α × σ}

/-- The state after a list of inputs. -/
def final (step : ι → σ → α × σ) (inputs : List ι) (s : σ) : σ :=
  inputs.foldl (fun s i => (step i s).2) s

/-- The answers to a list of inputs, each given in the state that the inputs before it lead to. -/
def answers (step : ι → σ → α × σ) : List ι → σ → List α
  | [], _ => []
  | i :: inputs, s => (step i s).1 :: answers step inputs (step i s).2

/-- The elements of a list except those at the dropped places. -/
def without {β : Type} (dropped : Nat → Bool) : List β → List β
  | [] => []
  | x :: xs =>
    let rest := without (fun n => dropped (n + 1)) xs
    if dropped 0 then rest else x :: rest

variable {i : ι} {inputs : List ι} {s : σ}

/-! ### The end of a run and its answers -/

@[simp] theorem final_cons : final step (i :: inputs) s = final step inputs (step i s).2 := rfl

/-- What every step keeps holds at the end of a run. -/
theorem final_of_forall {Keeps : σ → Prop} (kept : ∀ i s, Keeps s → Keeps (step i s).2)
    (inputs : List ι) {s : σ} (h : Keeps s) : Keeps (final step inputs s) := by
  induction inputs generalizing s with
  | nil => exact h
  | cons i inputs ih => exact ih (kept i s h)

theorem getElem?_answers (inputs : List ι) (s : σ) (n : Nat) :
    (answers step inputs s)[n]? =
      inputs[n]?.map fun i => (step i (final step (inputs.take n) s)).1 := by
  induction inputs generalizing s n with
  | nil => rfl
  | cons i inputs ih =>
    cases n with
    | zero => rfl
    | succ n => exact ih (step i s).2 n

/-! ### Inputs that can be left out -/

/-- Inputs that leave the state as they find it can be left out: the other answers stay what they
are, and so does the end of the run. -/
theorem without_idle (dropped : Nat → Bool)
    (idle : ∀ n i, dropped n = true → inputs[n]? = some i →
      (step i (final step (inputs.take n) s)).2 = final step (inputs.take n) s) :
    answers step (without dropped inputs) s = without dropped (answers step inputs s) ∧
      final step (without dropped inputs) s = final step inputs s := by
  -- by induction on the inputs, for every state and every set of places
  induction inputs generalizing s dropped with
  | nil => exact ⟨rfl, rfl⟩
  | cons i inputs ih =>
    obtain ⟨others, last⟩ := ih (fun n => dropped (n + 1)) (s := (step i s).2)
      fun n j drops found => idle (n + 1) j drops found
    cases first : dropped 0 with
    | false =>
      simp only [without, answers, first, Bool.false_eq_true, if_false, final_cons]
      exact ⟨congrArg (List.cons _) others, last⟩
    | true =>
      -- the run goes on from the state that the first input has left as it was
      have unchanged : (step i s).2 = s := idle 0 i first rfl
      simp only [without, answers, first, if_true, final_cons]
      rw [unchanged] at others last ⊢
      exact ⟨others, last⟩

end SealedLink.Run
