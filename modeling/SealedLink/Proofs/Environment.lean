import SealedLink.Environment.Basic

/-!
# Steps of a computation that draws random bytes

A computation whose steps succeed is the last of them, run in the environment that the others leave.
Read backwards, a computation that succeeds has steps that all do.

## Main definitions

* `Randomized.FailsOnlyWith` — all errors of a computation are of some kind

## Main results

* `Randomized.runIn_bind` — a step that succeeds hands on its result and its environment, and
  nothing runs after one that fails
* `Randomized.runIn_bind_eq_ok_iff` — the steps of a computation that succeeds
* `Randomized.runIn_request_of_ok`, `Randomized.runIn_request_of_error`,
  `Randomized.runIn_timestamp` — the steps that use the environment
* `Randomized.failsOnlyWith_bind` — the errors of a computation are those of its steps
-/

namespace SealedLink.Randomized

variable {ε α β : Type} {env env' : ε}

/-- After a failed step nothing else runs. -/
theorem runIn_bind (x : Randomized ε α) (f : α → Randomized ε β) (env : ε) :
    (x >>= f).runIn env =
      match x.runIn env with
      | (.ok a, env) => (f a).runIn env
      | (.error e, env) => (.error e, env) := by
  change ExceptT.bindCont f (x env).1 (x env).2 = _
  rw [runIn]
  cases x env with
  | mk answer left => cases answer <;> rfl

theorem runIn_bind_of_ok {x : Randomized ε α} {a : α} (h : x.runIn env = (.ok a, env'))
    (f : α → Randomized ε β) : (x >>= f).runIn env = (f a).runIn env' := by
  rw [runIn_bind, h]

theorem runIn_bind_of_error {x : Randomized ε α} {e : LaunchError}
    (h : x.runIn env = (.error e, env')) (f : α → Randomized ε β) :
    (x >>= f).runIn env = (.error e, env') := by
  rw [runIn_bind, h]

theorem runIn_bind_eq_ok_iff {x : Randomized ε α} {f : α → Randomized ε β} {b : β} :
    (x >>= f).runIn env = (.ok b, env') ↔
      ∃ a mid, x.runIn env = (.ok a, mid) ∧ (f a).runIn mid = (.ok b, env') := by
  rw [runIn_bind]
  cases x.runIn env with
  | mk answer mid =>
    cases answer with
    | error e => simp
    | ok a =>
      constructor
      · intro rest
        exact ⟨a, mid, rfl, rest⟩
      · rintro ⟨_, _, first, rest⟩
        cases first
        exact rest

theorem runIn_ofExcept_eq_ok_iff {x : Except LaunchError α} {a : α} :
    (ofExcept x).runIn env = (.ok a, env') ↔ x = .ok a ∧ env = env' := by
  rw [runIn, ofExcept, Prod.mk.injEq]

theorem runIn_pure_eq_ok_iff {a b : α} :
    (pure a : Randomized ε α).runIn env = (.ok b, env') ↔ a = b ∧ env = env' := by
  rw [show (pure a : Randomized ε α) = ofExcept (.ok a) from rfl, runIn_ofExcept_eq_ok_iff,
    Except.ok.injEq]

theorem runIn_pure (a : α) (env : ε) : (pure a : Randomized ε α).runIn env = (.ok a, env) := rfl

theorem runIn_ofExcept_of_ok {x : Except LaunchError α} {a : α} (h : x = .ok a) (env : ε) :
    (ofExcept x).runIn env = (.ok a, env) := by
  rw [h]
  rfl

theorem runIn_ofExcept_of_error {x : Except LaunchError α} {e : LaunchError} (h : x = .error e)
    (env : ε) : (ofExcept x).runIn env = (.error e, env) := by
  rw [h]
  rfl

/-! ### Errors -/

/-- Every error of a computation is of a kind, in whatever environment it runs. -/
def FailsOnlyWith (kind : LaunchError → Prop) (x : Randomized ε α) : Prop :=
  ∀ env e env', x.runIn env = (.error e, env') → kind e

variable {kind : LaunchError → Prop}

theorem failsOnlyWith_bind {x : Randomized ε α} {f : α → Randomized ε β}
    (first : FailsOnlyWith kind x) (next : ∀ a, FailsOnlyWith kind (f a)) :
    FailsOnlyWith kind (x >>= f) := by
  intro env e env' failed
  rw [runIn_bind] at failed
  cases ran : x.runIn env with
  | mk answer mid =>
    rw [ran] at failed
    cases answer with
    | error e' =>
      cases failed
      exact first env e env' ran
    | ok a => exact next a mid e env' failed

theorem failsOnlyWith_ofExcept {x : Except LaunchError α} (h : ∀ e, x = .error e → kind e) :
    FailsOnlyWith (ε := ε) kind (ofExcept x) := by
  intro env e env' failed
  exact h e (Prod.mk.inj failed).1

theorem failsOnlyWith_pure (a : α) : FailsOnlyWith (ε := ε) kind (pure a) :=
  failsOnlyWith_ofExcept (x := .ok a) nofun

/-! ### Steps that use the environment -/

variable [Environment ε]

theorem runIn_request_of_ok {n : Nat} {x : Octets n} (h : Environment.draw n env = (.ok x, env')) :
    (request n).runIn env = (.ok x, env') := by
  simp only [runIn, request, h]

theorem runIn_request_of_error {n : Nat} {reason : String}
    (h : Environment.draw n env = (.error reason, env')) :
    (request n).runIn env = (.error (.crypto (.randomUnavailable reason)), env') := by
  simp only [runIn, request, h]

theorem runIn_request_eq_ok_iff {n : Nat} {x : Octets n} :
    (request n).runIn env = (.ok x, env') ↔ Environment.draw n env = (.ok x, env') := by
  rw [runIn, request]
  cases Environment.draw n env with
  | mk answer left => cases answer <;> simp

theorem runIn_timestamp (env : ε) :
    timestamp.runIn env = (.ok (Environment.timestamp env), env) := rfl

theorem failsOnlyWith_request (n : Nat) (h : ∀ reason, kind (.crypto (.randomUnavailable reason))) :
    FailsOnlyWith (ε := ε) kind (request n) := by
  intro env e env' failed
  rw [runIn, request] at failed
  cases drawn : Environment.draw n env with
  | mk answer left =>
    rw [drawn] at failed
    cases answer with
    | ok x => cases failed
    | error reason =>
      cases failed
      exact h reason

end SealedLink.Randomized
