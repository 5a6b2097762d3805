import SealedLink.Bytes
import SealedLink.Time.Timestamp

/-!
# Environments

Sealing a link reads the clock and draws random bytes. An environment offers both; it is threaded
through a computation as a state, so a failed request and the requests before it are visible in what
is left.

## Main definitions

* `Environment` — a clock and a random source
* `Environment.timestamp` — the clock as a timestamp
* `Randomized` — computations that may draw random bytes and may fail
* `Randomized.request` — one request for random bytes
-/

namespace SealedLink

/-- A clock and a random source. -/
class Environment (ε : Type) where
  /-- The reading of the clock. -/
  now : ε → Instant
  /-- One request for `n` random bytes: the bytes, or why there are none, and the environment after.
  -/
  draw : (n : Nat) → ε → Except String (Octets n) × ε

/-- The reading of the clock as a timestamp. -/
def Environment.timestamp {ε : Type} [Environment ε] (env : ε) : Timestamp :=
  Timestamp.ofInstant (Environment.now env)

/-- Computations that may draw random bytes and may fail; what was drawn before a failure stays
drawn. -/
abbrev Randomized (ε α : Type) := ExceptT LaunchError (StateM ε) α

namespace Randomized

variable {ε α : Type}

/-- The result of a computation in an environment, and the environment after. -/
def runIn (env : ε) (x : Randomized ε α) : Except LaunchError α × ε := x env

/-- A result that needs no environment. -/
def ofExcept (x : Except LaunchError α) : Randomized ε α := fun env => (x, env)

/-- One request for `n` random bytes. -/
def request [Environment ε] (n : Nat) : Randomized ε (Octets n) := fun env =>
  match Environment.draw n env with
  | (.ok x, env) => (.ok x, env)
  | (.error reason, env) => (.error (.crypto (.randomUnavailable reason)), env)

/-- The clock as a timestamp. -/
def timestamp [Environment ε] : Randomized ε Timestamp := fun env =>
  (.ok (Environment.timestamp env), env)

end Randomized

end SealedLink
