import SealedLink.LaunchError

/-!
# Timestamps

A timestamp counts ticks of 100 nanoseconds from the first day of the year one to the last of the
year 9999. Its binary form is a 64-bit word that holds the ticks and, in the two high bits, the kind
of time: UTC is written, UTC and unspecified are read, local time is refused.

## Main definitions

* `Instant` — a reading of the clock, nanoseconds from the Unix epoch
* `Timestamp` — ticks in range
* `Timestamp.ofInstant` — the timestamp of a clock reading, clamped to the range
* `Timestamp.toBinary`, `Timestamp.ofBinary` — the binary form
* `Timestamp.ageAt?` — the time from a timestamp to a later one
* `Timestamp.staleAge?` — that time if it exceeds a limit
-/

namespace SealedLink

/-- A reading of the clock. -/
structure Instant where
  /-- Nanoseconds since the Unix epoch, negative before it. -/
  nanos : Int
  deriving DecidableEq

namespace Instant

/-- The Unix epoch. -/
def epoch : Instant := ⟨0⟩

/-- The instant a duration later. -/
def after (t : Instant) (d : Duration) : Instant := ⟨t.nanos + d.nanos⟩

/-- The instant a duration earlier. -/
def before (t : Instant) (d : Duration) : Instant := ⟨t.nanos - d.nanos⟩

end Instant

namespace Timestamp

/-- The nanoseconds of one tick. -/
def nanosPerTick : Nat := 100

/-- The ticks of one second. -/
def ticksPerSecond : Nat := 10000000

/-- The ticks at the Unix epoch. -/
def ticksAtUnixEpoch : Nat := 621355968000000000

/-- The last tick of the year 9999. -/
def maxTicks : Nat := 3155378975999999999

end Timestamp

/-- Ticks of 100 nanoseconds since the beginning of the year one, up to the end of the year 9999. -/
structure Timestamp where
  /-- The number of ticks. -/
  ticks : Nat
  ticks_le : ticks ≤ Timestamp.maxTicks
  deriving DecidableEq

namespace Timestamp

@[ext] theorem ext {t u : Timestamp} (h : t.ticks = u.ticks) : t = u := by
  cases t; cases u; cases h; rfl

/-- The timestamp of a number of ticks, if it is in range. -/
def ofTicks? (ticks : Int) : Option Timestamp :=
  if h : 0 ≤ ticks ∧ ticks ≤ maxTicks then some ⟨ticks.toNat, by omega⟩ else none

/-- The timestamp of a clock reading, rounded toward the Unix epoch and clamped to the range. -/
def ofInstant (t : Instant) : Timestamp :=
  let elapsed := t.nanos.natAbs / nanosPerTick
  if 0 ≤ t.nanos then ⟨min (ticksAtUnixEpoch + elapsed) maxTicks, Nat.min_le_right _ _⟩
  else ⟨ticksAtUnixEpoch - elapsed, Nat.le_trans (Nat.sub_le _ _) (by decide)⟩

/-! ### Binary form -/

/-- The weight of the kind in a binary timestamp: ticks take the low 62 bits. -/
def kindWeight : Nat := 0x4000000000000000

/-- The kind written for a timestamp, universal time. -/
def kindUtc : Nat := 1

/-- The binary form of a timestamp. -/
def toBinary (t : Timestamp) : UInt64 := UInt64.ofNat (kindUtc * kindWeight + t.ticks)

/-- The timestamp of a binary form. -/
def ofBinary (word : UInt64) : Except LaunchError Timestamp :=
  if kindUtc < word.toNat / kindWeight then
    .error (.invalidInput "timestamp" "local-time timestamps are not accepted")
  else
    let ticks := word.toNat % kindWeight
    match ofTicks? ticks with
    | some t => .ok t
    | none => .error (.invalidInput "timestamp" s!"{ticks} ticks out of range")

/-! ### Age -/

/-- The time from a timestamp to a later one, nothing if it is in the future. -/
def ageAt? (t now : Timestamp) : Option Duration :=
  if t.ticks ≤ now.ticks then some ⟨(now.ticks - t.ticks) * nanosPerTick⟩ else none

/-- The age of a timestamp if it is more than `maxAge`. A timestamp in the future is never too old.
-/
def staleAge? (t now : Timestamp) (maxAge : Duration) : Option Duration :=
  (t.ageAt? now).filter (maxAge < ·)

/-- The timestamp is older than `maxAge`. -/
def isExpired (t now : Timestamp) (maxAge : Duration) : Bool :=
  match t.ageAt? now with
  | some age => maxAge < age
  | none => false

end Timestamp

end SealedLink
