import SealedLink.Proofs.Time.Freshness

/-!
# Time in machine words

Durations, ticks and clock readings are whole numbers, but they are kept in words of limited size.
Here the clock is converted and ages are taken as a machine does it, one word after the other. A
step whose result does not fit into its word has no result, so a result shows that nothing was lost
on the way to it. Every timestamp and every clock reading has one, and it is what arithmetic without
limits gives.

## Main definitions

* `Word`, `Word.put` — the words, and a number put into a word
* `StoredDuration` — seconds, and the nanoseconds beyond them
* `Timestamp.ticksInWords` — the ticks of a clock reading
* `Timestamp.ageInWords`, `Timestamp.isExpiredInWords` — the age of a timestamp, and whether it
  exceeds a limit
* `Instant.IsRepresentable` — a clock reading at the distance of a duration from the Unix epoch

## Main results

* `Duration.isLess_stored` — stored durations are compared like numbers of nanoseconds
* `Timestamp.ticksInWords_eq`, `Timestamp.ageInWords_eq`, `Timestamp.isExpiredInWords_eq` — nothing
  is lost in the words
-/

namespace SealedLink

/-! ### Words -/

/-- The words that times are kept in. -/
inductive Word where
  /-- 64 bits with a sign. -/
  | signed64
  /-- 32 bits. -/
  | unsigned32
  /-- 64 bits. -/
  | unsigned64
  /-- 128 bits. -/
  | unsigned128
  /-- The nanoseconds of a stored duration, less than a second. -/
  | subsecond
  deriving DecidableEq

namespace Word

/-- The least number in a word. -/
def least : Word → Int
  | signed64 => -0x8000000000000000
  | unsigned32 | unsigned64 | unsigned128 | subsecond => 0

/-- The greatest number in a word. -/
def greatest : Word → Int
  | signed64 => 0x7fffffffffffffff
  | unsigned32 => 0xffffffff
  | unsigned64 => 0xffffffffffffffff
  | unsigned128 => 0xffffffffffffffffffffffffffffffff
  | subsecond => 999999999

/-- The numbers that a word can hold. -/
def Fits (w : Word) (x : Int) : Prop := w.least ≤ x ∧ x ≤ w.greatest

instance (w : Word) (x : Int) : Decidable (w.Fits x) := inferInstanceAs (Decidable (_ ∧ _))

/-- A number that does not fit into its word. -/
structure Overflow where
  /-- The word. -/
  word : Word
  /-- The number. -/
  value : Int
  deriving DecidableEq

/-- A number put into a word. -/
def put (w : Word) (x : Int) : Except Overflow Int := if w.Fits x then .ok x else .error ⟨w, x⟩

theorem put_of_fits {w : Word} {x : Int} (h : w.Fits x) : w.put x = .ok x := if_pos h

/-- A computation goes on with a number that its word can hold. -/
theorem put_bind {α : Type} {w : Word} {x : Int} (h : w.Fits x) (f : Int → Except Overflow α) :
    (w.put x >>= f) = f x := by
  rw [put_of_fits h]
  rfl

/-- A count fits into a word that can hold a bound of it. -/
theorem Fits.of_le {w : Word} {n bound : Nat} (h : n ≤ bound) (large : bound ≤ w.greatest) :
    w.Fits n := by
  have least : w.least ≤ 0 := by cases w <;> decide
  constructor <;> omega

end Word

/-! ### Durations -/

/-- A duration in words. -/
structure StoredDuration where
  /-- Whole seconds. -/
  seconds : Int
  /-- The nanoseconds beyond them. -/
  nanos : Int
  deriving DecidableEq

/-- The seconds and nanoseconds of a duration. -/
def Duration.stored (d : Duration) : StoredDuration := ⟨d.seconds, d.subsecNanos⟩

namespace StoredDuration

/-- Durations are compared by their seconds, and by their nanoseconds if those are equal. -/
def isLess (a b : StoredDuration) : Bool :=
  a.seconds < b.seconds || (a.seconds == b.seconds && a.nanos < b.nanos)

/-- The duration of a number of ticks: they are divided in signed words, and what is left of a
second is counted in nanoseconds in a wide word. -/
def ofTicks (ticks : Int) : Except Word.Overflow StoredDuration := do
  let whole ← Word.signed64.put (ticks.tdiv Timestamp.ticksPerSecond)
  let seconds ← Word.unsigned64.put whole
  let rest ← Word.signed64.put (ticks.tmod Timestamp.ticksPerSecond)
  let rest ← Word.unsigned128.put rest
  let rest ← Word.unsigned128.put (rest * Timestamp.nanosPerTick)
  let nanos ← Word.unsigned32.put rest
  let nanos ← Word.subsecond.put nanos
  return ⟨seconds, nanos⟩

end StoredDuration

namespace Duration

theorem seconds_mul_add_subsecNanos (d : Duration) :
    d.seconds * nanosPerSecond + d.subsecNanos = d.nanos := Nat.div_add_mod' _ _

theorem subsecNanos_lt (d : Duration) : d.subsecNanos < nanosPerSecond := Nat.mod_lt _ (by decide)

theorem isLess_stored (a b : Duration) : a.stored.isLess b.stored = decide (a < b) := by
  have parts := a.seconds_mul_add_subsecNanos
  have parts' := b.seconds_mul_add_subsecNanos
  have small := a.subsecNanos_lt
  have small' := b.subsecNanos_lt
  -- a number of nanoseconds has two digits, of which the seconds are the higher one
  have compared : a < b ↔
      a.seconds < b.seconds ∨ a.seconds = b.seconds ∧ a.subsecNanos < b.subsecNanos := by
    rw [lt_def]
    unfold nanosPerSecond at *
    omega
  rw [Bool.eq_iff_iff, decide_eq_true_eq, compared]
  simp only [StoredDuration.isLess, stored, Bool.or_eq_true, Bool.and_eq_true, decide_eq_true_eq,
    beq_iff_eq, Int.ofNat_lt, Int.ofNat_inj]

end Duration

/-- The whole seconds and the rest of any number of ticks in range are those of its nanoseconds. -/
theorem StoredDuration.ofTicks_of_le {ticks : Nat} (h : ticks ≤ Timestamp.maxTicks) :
    ofTicks ticks = .ok (Duration.stored ⟨ticks * Timestamp.nanosPerTick⟩) := by
  unfold Timestamp.maxTicks at h
  have quotient : (ticks : Int).tdiv Timestamp.ticksPerSecond = (ticks / 10000000 : Nat) :=
    (Int.ofNat_tdiv _ _).symm
  have remainder : (ticks : Int).tmod Timestamp.ticksPerSecond = (ticks % 10000000 : Nat) :=
    (Int.ofNat_tmod _ _).symm
  have product : ((ticks % 10000000 : Nat) : Int) * Timestamp.nanosPerTick =
      (ticks % 10000000 * 100 : Nat) := (Int.natCast_mul _ _).symm
  have stored : Duration.stored ⟨ticks * Timestamp.nanosPerTick⟩ =
      ⟨(ticks / 10000000 : Nat), (ticks % 10000000 * 100 : Nat)⟩ := by
    simp only [Duration.stored, Duration.seconds, Duration.subsecNanos, Timestamp.nanosPerTick,
      Duration.nanosPerSecond, StoredDuration.mk.injEq]
    omega
  -- each of the three numbers fits into all words that it passes through
  have whole : ticks / 10000000 ≤ 315537897599 := by omega
  have rest : ticks % 10000000 ≤ 9999999 := by omega
  have nanos : ticks % 10000000 * 100 ≤ 999999900 := by omega
  rw [stored, ofTicks, quotient, Word.put_bind (.of_le whole (by decide)),
    Word.put_bind (.of_le whole (by decide)), remainder, Word.put_bind (.of_le rest (by decide)),
    Word.put_bind (.of_le rest (by decide)), product, Word.put_bind (.of_le nanos (by decide)),
    Word.put_bind (.of_le nanos (by decide)), Word.put_bind (.of_le nanos (by decide))]
  rfl

/-! ### The clock -/

/-- A clock reading at the distance of a duration from the Unix epoch, whose seconds are in a word.
-/
def Instant.IsRepresentable (t : Instant) : Prop :=
  t.nanos.natAbs < 0x10000000000000000 * Duration.nanosPerSecond

instance (t : Instant) : Decidable t.IsRepresentable := inferInstanceAs (Decidable (_ < _))

namespace Timestamp

/-- The whole ticks of a duration, at most `most`: the nanoseconds are counted in a wide word, and
the ticks are brought into a signed one. -/
def wholeTicks (d : StoredDuration) (most : Nat) : Except Word.Overflow Int := do
  let seconds ← Word.unsigned64.put d.seconds
  let nanos ← Word.subsecond.put d.nanos
  let seconds ← Word.unsigned128.put (seconds * Duration.nanosPerSecond)
  let nanos ← Word.unsigned128.put (seconds + nanos)
  Word.signed64.put (min (nanos / nanosPerTick) most)

/-- The ticks of a clock reading, which is a duration after or before the Unix epoch. -/
def ticksInWords (t : Instant) : Except Word.Overflow Int := do
  let distance : Duration := ⟨t.nanos.natAbs⟩
  if 0 ≤ t.nanos then
    let elapsed ← wholeTicks distance.stored maxTicks
    let ticks ← Word.signed64.put (ticksAtUnixEpoch + elapsed)
    return min ticks maxTicks
  else
    let missing ← wholeTicks distance.stored ticksAtUnixEpoch
    Word.signed64.put (ticksAtUnixEpoch - missing)

theorem wholeTicks_stored {d : Duration} {most : Nat}
    (distance : d.nanos < 0x10000000000000000 * Duration.nanosPerSecond)
    (fits : most ≤ maxTicks) :
    wholeTicks d.stored most = .ok (min (d.nanos / nanosPerTick) most : Nat) := by
  have parts := d.seconds_mul_add_subsecNanos
  have below := d.subsecNanos_lt
  unfold Duration.nanosPerSecond at parts below distance
  have product : (d.seconds : Int) * Duration.nanosPerSecond = (d.seconds * 1000000000 : Nat) :=
    (Int.natCast_mul _ _).symm
  have sum : ((d.seconds * 1000000000 : Nat) : Int) + d.subsecNanos = d.nanos := by omega
  have capped : min ((d.nanos : Int) / nanosPerTick) most =
      (min (d.nanos / nanosPerTick) most : Nat) := by
    unfold nanosPerTick
    omega
  have seconds : d.seconds ≤ 0xffffffffffffffff := by omega
  have nanos : d.subsecNanos ≤ 999999999 := by omega
  have whole : d.seconds * 1000000000 ≤ 0x10000000000000000 * 1000000000 := by omega
  unfold wholeTicks Duration.stored
  rw [Word.put_bind (.of_le seconds (by decide)), Word.put_bind (.of_le nanos (by decide)), product,
    Word.put_bind (.of_le whole (by decide)), sum,
    Word.put_bind (.of_le (Nat.le_of_lt distance) (by decide)), capped,
    Word.put_of_fits (.of_le (Nat.le_trans (Nat.min_le_right _ _) fits) (by decide))]

/-- Every clock reading gets the ticks that it gets by unlimited arithmetic. -/
theorem ticksInWords_eq {t : Instant} (h : t.IsRepresentable) :
    ticksInWords t = .ok (ofInstant t).ticks := by
  -- no number on the way is greater than the epoch and the whole range together
  have fits {ticks : Nat} (h : ticks ≤ ticksAtUnixEpoch + maxTicks) : Word.signed64.Fits ticks :=
    .of_le h (by decide)
  unfold ticksInWords ofInstant
  by_cases started : 0 ≤ t.nanos
  · have elapsed := wholeTicks_stored (d := ⟨t.nanos.natAbs⟩) h (Nat.le_refl maxTicks)
    have sum : (ticksAtUnixEpoch : Int) + (min (t.nanos.natAbs / nanosPerTick) maxTicks : Nat) =
        (ticksAtUnixEpoch + min (t.nanos.natAbs / nanosPerTick) maxTicks : Nat) :=
      (Int.natCast_add _ _).symm
    have bound := Nat.min_le_right (t.nanos.natAbs / nanosPerTick) maxTicks
    simp only [if_pos started, elapsed]
    change (Word.signed64.put _ >>= fun ticks => Except.ok (min ticks (maxTicks : Int))) = _
    rw [sum, Word.put_bind (fits (Nat.add_le_add_left bound _))]
    congr 1
    omega
  · have missing := wholeTicks_stored (d := ⟨t.nanos.natAbs⟩) h
      (show ticksAtUnixEpoch ≤ maxTicks by decide)
    have difference :
        (ticksAtUnixEpoch : Int) - (min (t.nanos.natAbs / nanosPerTick) ticksAtUnixEpoch : Nat) =
          (ticksAtUnixEpoch - t.nanos.natAbs / nanosPerTick : Nat) := by omega
    have bound := Nat.le_add_right ticksAtUnixEpoch maxTicks
    simp only [if_neg started, missing]
    change Word.signed64.put _ = _
    rw [difference, Word.put_of_fits (fits (Nat.le_trans (Nat.sub_le _ _) bound))]

/-! ### Age -/

/-- The age of a timestamp, nothing if it is in the future. -/
def ageInWords (t now : Timestamp) : Except Word.Overflow (Option StoredDuration) := do
  let elapsed ← Word.signed64.put (now.ticks - t.ticks)
  if elapsed < 0 then return none
  else
    let age ← StoredDuration.ofTicks elapsed
    return some age

/-- The timestamp is older than a limit. -/
def isExpiredInWords (t now : Timestamp) (maxAge : StoredDuration) :
    Except Word.Overflow Bool := do
  match ← t.ageInWords now with
  | some age => return maxAge.isLess age
  | none => return false

theorem ageInWords_eq (t now : Timestamp) :
    t.ageInWords now = .ok ((t.ageAt? now).map Duration.stored) := by
  have range := t.ticks_le
  have range' := now.ticks_le
  have difference : Word.signed64.Fits ((now.ticks : Int) - t.ticks) := by
    unfold maxTicks at range range'
    constructor <;> simp only [Word.least, Word.greatest] <;> omega
  rw [ageInWords, Word.put_bind difference]
  by_cases past : t.ticks ≤ now.ticks
  · have elapsed : (now.ticks : Int) - t.ticks = (now.ticks - t.ticks : Nat) :=
      (Int.natCast_sub past).symm
    rw [if_neg (by omega), elapsed, StoredDuration.ofTicks_of_le (by omega), ageAt?, if_pos past]
    rfl
  · rw [if_pos (by omega), ageAt?, if_neg past]
    rfl

theorem isExpiredInWords_eq (t now : Timestamp) (maxAge : Duration) :
    t.isExpiredInWords now maxAge.stored = .ok (t.isExpired now maxAge) := by
  rw [isExpiredInWords, ageInWords_eq, isExpired]
  cases t.ageAt? now with
  | none => rfl
  | some age => exact congrArg Except.ok (maxAge.isLess_stored age)

end Timestamp

end SealedLink
