import SealedLink.Environment.Basic

/-!
# The scripted environment

An environment without chance, for trials: the clock stands where it is put, and random bytes come
from a script. When the script runs out, each request is completed with a byte of its own.

## Main definitions

* `ScriptedEnvironment` — the clock, the script, and the byte of the next request
* `ScriptedEnvironment.atInstant` — an environment with an empty script
-/

namespace SealedLink

/-- A clock that is set and random bytes that are written down. -/
structure ScriptedEnvironment where
  /-- The reading of the clock. -/
  clock : Instant
  /-- The bytes that are served first. -/
  script : Bytes
  /-- The byte that completes the next request. -/
  counter : UInt8
  /-- Every request fails. -/
  offline : Bool

namespace ScriptedEnvironment

/-- The environment with a clock reading, an empty script and no requests so far. -/
def atInstant (clock : Instant) : ScriptedEnvironment := ⟨clock, [], 1, false⟩

/-- The environment with more bytes at the end of its script. -/
def append (env : ScriptedEnvironment) (bytes : Bytes) : ScriptedEnvironment :=
  { env with script := env.script ++ bytes }

/-- The environment whose requests all fail. -/
def takeOffline (env : ScriptedEnvironment) : ScriptedEnvironment := { env with offline := true }

/-- The bytes that serve a request for `n`: from the script, then the byte of the request. -/
def serve (n : Nat) (env : ScriptedEnvironment) : Octets n :=
  ⟨env.script.take n ++ List.replicate (n - env.script.length) env.counter, by simp; omega⟩

/-- One request. A failing one changes nothing, any other has a byte of its own. -/
def draw (n : Nat) (env : ScriptedEnvironment) : Except String (Octets n) × ScriptedEnvironment :=
  if env.offline then (.error "mock entropy source offline", env)
  else (.ok (env.serve n), { env with script := env.script.drop n, counter := env.counter + 1 })

instance : Environment ScriptedEnvironment where
  now env := env.clock
  draw := draw

end ScriptedEnvironment

end SealedLink
