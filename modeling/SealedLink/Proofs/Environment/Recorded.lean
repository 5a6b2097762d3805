import SealedLink.Proofs.Environment

/-!
# Which random requests a computation makes

The result of a computation does not show which random bytes it has asked for. An environment that
notes every request does, and it answers like the environment that it is made from. So whatever is
put together from steps that use an environment has the same result with the notes and without them,
and the requests that are noted lead from the environment before to the one after.

## Main definitions

* `RandomRequest` — a request and its answer
* `RecordedEnvironment` — an environment with the requests that were made in it
* `Environment.Requests` — requests that lead from one environment to another
* `Randomized.Records` — the same computation with notes and without

## Main results

* `Randomized.records_request`, `Randomized.Records.bind` — the steps, and how they are put together
* `Environment.Requests.append` — requests one after the other
-/

namespace SealedLink

/-- A request for random bytes and what was answered. -/
structure RandomRequest where
  /-- The number of bytes that were asked for. -/
  size : Nat
  /-- The bytes, or why there are none. -/
  answer : Except String (Octets size)

/-- An environment and the requests that were made in it, in order. -/
structure RecordedEnvironment (ε : Type) where
  /-- The environment that answers. -/
  inner : ε
  /-- The requests so far. -/
  requests : List RandomRequest

namespace RecordedEnvironment

variable {ε : Type}

/-- An environment without a request so far. -/
def start (env : ε) : RecordedEnvironment ε := ⟨env, []⟩

instance [Environment ε] : Environment (RecordedEnvironment ε) where
  now env := Environment.now env.inner
  draw n env :=
    ((Environment.draw n env.inner).1,
      ⟨(Environment.draw n env.inner).2,
        env.requests ++ [⟨n, (Environment.draw n env.inner).1⟩]⟩)

theorem draw_of_inner [Environment ε] {env left : ε} {n : Nat} {answer : Except String (Octets n)}
    (h : Environment.draw n env = (answer, left)) (requests : List RandomRequest) :
    Environment.draw n (⟨env, requests⟩ : RecordedEnvironment ε) =
      (answer, ⟨left, requests ++ [⟨n, answer⟩]⟩) := by
  change ((Environment.draw n env).1, RecordedEnvironment.mk (Environment.draw n env).2
    (requests ++ [⟨n, (Environment.draw n env).1⟩])) = _
  rw [h]

end RecordedEnvironment

/-! ### Requests one after the other -/

namespace Environment

variable {ε : Type} [Environment ε] {env mid left : ε} {made made' : List RandomRequest}

theorem draw_eq_error_or_ok (n : Nat) (env : ε) :
    (∃ reason left, draw n env = (.error reason, left)) ∨ ∃ x left, draw n env = (.ok x, left) := by
  cases draw n env with
  | mk answer left => cases answer <;> simp

/-- The requests, one after the other, lead from one environment to another. -/
inductive Requests : ε → List RandomRequest → ε → Prop
  | nil {env : ε} : Requests env [] env
  | cons {env mid left : ε} {n : Nat} {answer : Except String (Octets n)}
      {made : List RandomRequest} (first : draw n env = (answer, mid))
      (rest : Requests mid made left) : Requests env (⟨n, answer⟩ :: made) left

theorem Requests.append (h : Requests env made mid) (h' : Requests mid made' left) :
    Requests env (made ++ made') left := by
  induction h with
  | nil => exact h'
  | cons first _ ih => exact .cons first (ih h')

end Environment

/-! ### Computations -/

namespace Randomized

variable {ε α β : Type} [Environment ε]

open Environment (Requests)

/-- The second computation is the first one in an environment that notes the requests: it has the
same result, and the requests that it makes lead from the environment before to the one after. -/
def Records (x : Randomized ε α) (x' : Randomized (RecordedEnvironment ε) α) : Prop :=
  ∀ env requests, ∃ made, Requests env made (x.runIn env).2 ∧
    x'.runIn ⟨env, requests⟩ = ((x.runIn env).1, ⟨(x.runIn env).2, requests ++ made⟩)

/-- A step that leaves the environment alone makes no request. -/
theorem records_of_idle {x : Randomized ε α} {x' : Randomized (RecordedEnvironment ε) α}
    (answer : ε → Except LaunchError α) (h : ∀ env, x.runIn env = (answer env, env))
    (h' : ∀ env, x'.runIn env = (answer env.inner, env)) : Records x x' := by
  intro env requests
  refine ⟨[], ?_, ?_⟩
  · rw [h]
    exact .nil
  · rw [h', h, List.append_nil]

theorem records_ofExcept (answer : Except LaunchError α) :
    Records (ofExcept answer : Randomized ε α) (ofExcept answer) :=
  records_of_idle (fun _ => answer) (fun _ => rfl) (fun _ => rfl)

theorem records_pure (a : α) : Records (pure a : Randomized ε α) (pure a) :=
  records_of_idle (fun _ => .ok a) (fun _ => rfl) (fun _ => rfl)

theorem records_timestamp : Records (timestamp : Randomized ε Timestamp) timestamp :=
  records_of_idle (fun env => .ok (Environment.timestamp env)) (fun _ => rfl) (fun _ => rfl)

theorem records_request (n : Nat) : Records (request n : Randomized ε (Octets n)) (request n) := by
  intro env requests
  obtain ⟨answer, left, drawn⟩ : ∃ answer left, Environment.draw n env = (answer, left) :=
    ⟨_, _, rfl⟩
  have noted := RecordedEnvironment.draw_of_inner drawn requests
  refine ⟨[⟨n, answer⟩], ?_⟩
  cases answer with
  | error reason =>
    rw [runIn_request_of_error drawn, runIn_request_of_error noted]
    exact ⟨.cons drawn .nil, rfl⟩
  | ok x =>
    rw [runIn_request_of_ok drawn, runIn_request_of_ok noted]
    exact ⟨.cons drawn .nil, rfl⟩

/-- Requests of a second step come after those of the first, and there are none if the first fails.
-/
theorem Records.bind {x : Randomized ε α} {x' : Randomized (RecordedEnvironment ε) α}
    {f : α → Randomized ε β} {f' : α → Randomized (RecordedEnvironment ε) β} (h : Records x x')
    (h' : ∀ a, Records (f a) (f' a)) : Records (x >>= f) (x' >>= f') := by
  intro env requests
  obtain ⟨made, first, same⟩ := h env requests
  rw [runIn_bind, runIn_bind, same]
  cases ran : x.runIn env with
  | mk answer mid =>
    rw [ran] at first
    cases answer with
    | error e => exact ⟨made, first, rfl⟩
    | ok a =>
      obtain ⟨made', second, same'⟩ := h' a mid (requests ++ made)
      refine ⟨made ++ made', first.append second, ?_⟩
      rw [← List.append_assoc]
      exact same'

end Randomized

end SealedLink
