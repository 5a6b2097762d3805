/-!
# Durations

A duration is a number of nanoseconds, so comparison and addition are exact.

## Main definitions

* `Duration` — a length of time
* `Duration.seconds`, `Duration.subsecNanos` — whole seconds and the nanoseconds beyond them
* `Duration.text` — the duration in the largest fitting unit
-/

namespace SealedLink

/-- A length of time. -/
structure Duration where
  /-- Its nanoseconds. -/
  nanos : Nat
  deriving DecidableEq

namespace Duration

instance : LT Duration := ⟨fun a b => a.nanos < b.nanos⟩

instance : LE Duration := ⟨fun a b => a.nanos ≤ b.nanos⟩

instance (a b : Duration) : Decidable (a < b) := inferInstanceAs (Decidable (a.nanos < b.nanos))

instance (a b : Duration) : Decidable (a ≤ b) := inferInstanceAs (Decidable (a.nanos ≤ b.nanos))

instance : Add Duration := ⟨fun a b => ⟨a.nanos + b.nanos⟩⟩

theorem lt_def {a b : Duration} : a < b ↔ a.nanos < b.nanos := Iff.rfl

theorem le_def {a b : Duration} : a ≤ b ↔ a.nanos ≤ b.nanos := Iff.rfl

/-- The nanoseconds of one second. -/
def nanosPerSecond : Nat := 1000000000

/-- Whole seconds and nanoseconds. -/
def ofParts (seconds nanos : Nat) : Duration := ⟨seconds * nanosPerSecond + nanos⟩

/-- Whole seconds. -/
def ofSeconds (seconds : Nat) : Duration := ofParts seconds 0

/-- The whole seconds of a duration. -/
def seconds (d : Duration) : Nat := d.nanos / nanosPerSecond

/-- The nanoseconds beyond the whole seconds. -/
def subsecNanos (d : Duration) : Nat := d.nanos % nanosPerSecond

/-! ### Text -/

/-- A point and the digits of a fraction without trailing zeros, nothing for zero. The fraction is
`part` over ten to the power of `digits`. -/
def fractionText (part digits : Nat) : String :=
  if part = 0 then ""
  else
    let zeros := List.replicate (digits - (Nat.toDigits 10 part).length) '0'
    let kept := ((zeros ++ Nat.toDigits 10 part).reverse.dropWhile (· == '0')).reverse
    "." ++ String.ofList kept

/-- The duration in the largest of the units s, ms, µs and ns in which it has whole units. -/
def text (d : Duration) : String :=
  let inUnit := fun (size digits : Nat) (unit : String) =>
    s!"{d.nanos / size}{fractionText (d.nanos % size) digits}{unit}"
  if nanosPerSecond ≤ d.nanos then inUnit nanosPerSecond 9 "s"
  else if 1000000 ≤ d.nanos then inUnit 1000000 6 "ms"
  else if 1000 ≤ d.nanos then inUnit 1000 3 "µs"
  else s!"{d.nanos}ns"

end Duration

end SealedLink
