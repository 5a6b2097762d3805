import SealedLink.Proofs.Time.Words

/-!
# The clock as a timestamp

A clock reading becomes a timestamp by a division that rounds toward the Unix epoch, so up before it
and down after it, and by bringing the result into the range of timestamps. A reading in that range
is at less than a tick from its timestamp, so the age between two of them is wrong by less than two
ticks.

## Main definitions

* `Timestamp.clamp` — the nearest number of ticks in range
* `Instant.IsInRange` — a clock reading between the years one and 9999
* `Timestamp.Converts` — what a clock reading is converted to

## Main results

* `Timestamp.ticks_ofInstant_eq_clamp` — the ticks of a clock reading by one formula for both sides
  of the epoch
* `Timestamp.natAbs_sub_lt_of_isInRange` — a timestamp is within a tick of its clock reading
* `Timestamp.ofInstant_total_monotone_accurate` — the conversion of every clock reading
-/

namespace SealedLink

namespace Instant

/-- The nanoseconds from the beginning of the year one to the Unix epoch. -/
def epochNanos : Int := Timestamp.ticksAtUnixEpoch * Timestamp.nanosPerTick

/-- A clock reading from the beginning of the year one to the end of the year 9999. -/
def IsInRange (t : Instant) : Prop :=
  0 ≤ epochNanos + t.nanos ∧
    epochNanos + t.nanos < (Timestamp.maxTicks + 1) * Timestamp.nanosPerTick

instance (t : Instant) : Decidable t.IsInRange := inferInstanceAs (Decidable (_ ∧ _))

end Instant

namespace Timestamp

variable {t u : Instant}

/-- A number of ticks, or the end of the range that it is beyond. -/
def clamp (ticks : Int) : Int := max 0 (min ticks maxTicks)

/-! ### Rounding -/

/-- Division toward zero divides the distance from zero. -/
theorem tdiv_nanosPerTick (n : Int) :
    n.tdiv nanosPerTick =
      if 0 ≤ n then ((n.natAbs / nanosPerTick : Nat) : Int)
      else -(n.natAbs / nanosPerTick : Nat) := by
  by_cases h : 0 ≤ n
  · rw [if_pos h, Int.ofNat_tdiv, Int.natAbs_of_nonneg h]
  · have negative : n = -(n.natAbs : Int) := by omega
    rw [if_neg h, Int.ofNat_tdiv, ← Int.neg_tdiv, ← negative]

theorem ticks_ofInstant_eq_clamp (t : Instant) :
    ((ofInstant t).ticks : Int) = clamp (ticksAtUnixEpoch + t.nanos.tdiv nanosPerTick) := by
  have top : ticksAtUnixEpoch ≤ maxTicks := by decide
  rw [tdiv_nanosPerTick]
  unfold ofInstant clamp
  -- only the number of whole ticks matters, so the division is put aside
  by_cases started : 0 ≤ t.nanos
  · simp only [if_pos started]
    generalize t.nanos.natAbs / nanosPerTick = distance
    omega
  · simp only [if_neg started]
    generalize t.nanos.natAbs / nanosPerTick = distance
    omega

/-- In range nothing is clamped, and rounding loses less than a tick. -/
theorem natAbs_sub_lt_of_isInRange (h : t.IsInRange) :
    (((ofInstant t).ticks : Int) * nanosPerTick - (Instant.epochNanos + t.nanos)).natAbs <
      nanosPerTick := by
  have rounded := tdiv_nanosPerTick t.nanos
  unfold Instant.IsInRange Instant.epochNanos at h
  unfold Instant.epochNanos
  rw [ticks_ofInstant_eq_clamp]
  unfold clamp
  unfold ticksAtUnixEpoch maxTicks nanosPerTick at *
  by_cases started : 0 ≤ t.nanos
  · rw [if_pos started] at rounded
    omega
  · rw [if_neg started] at rounded
    omega

/-- Two clock readings in range have an age, and it is wrong by less than two ticks. -/
theorem exists_ageAt?_of_isInRange (h : t.IsInRange) (h' : u.IsInRange) (le : t.nanos ≤ u.nanos) :
    ∃ age, (ofInstant t).ageAt? (ofInstant u) = some age ∧
      ((age.nanos : Int) - (u.nanos - t.nanos)).natAbs < 2 * nanosPerTick := by
  -- each of the two readings is missed by less than a tick, in one direction or the other
  have ordered := ticks_ofInstant_mono le
  have earlier := natAbs_sub_lt_of_isInRange h
  have later := natAbs_sub_lt_of_isInRange h'
  refine ⟨_, ageAt?_eq_some_iff.mpr ⟨ordered, rfl⟩, ?_⟩
  have age : (((ofInstant u).ticks - (ofInstant t).ticks) * nanosPerTick : Nat) =
      ((ofInstant u).ticks : Int) * nanosPerTick - (ofInstant t).ticks * nanosPerTick := by
    rw [Int.natCast_mul, Int.natCast_sub ordered, Int.sub_mul]
  simp only [age]
  omega

/-! ### The conversion -/

/-- What a clock reading is converted to: the words lose nothing, the result is in range, and it is
the tick at the reading or, between two, the one at the side of the epoch, clamped to the range. -/
structure Converts (t : Instant) (result : Timestamp) : Prop where
  inWords : ticksInWords t = .ok result.ticks
  inRange : result.ticks ≤ maxTicks
  clamped : (result.ticks : Int) = clamp (ticksAtUnixEpoch + t.nanos.tdiv nanosPerTick)

/-- Every clock reading that a duration can tell from the epoch is converted without a loss, a later
one has no smaller timestamp, and between readings in range the age is right up to two ticks. -/
theorem ofInstant_total_monotone_accurate :
    (∀ t : Instant, t.IsRepresentable → Converts t (ofInstant t)) ∧
      (∀ t u : Instant, t.nanos ≤ u.nanos → (ofInstant t).ticks ≤ (ofInstant u).ticks) ∧
      ∀ t u : Instant, t.IsInRange → u.IsInRange → t.nanos ≤ u.nanos →
        ∃ age, (ofInstant t).ageAt? (ofInstant u) = some age ∧
          ((age.nanos : Int) - (u.nanos - t.nanos)).natAbs < 200 :=
  ⟨fun t h => ⟨ticksInWords_eq h, (ofInstant t).ticks_le, ticks_ofInstant_eq_clamp t⟩,
    fun _ _ => ticks_ofInstant_mono,
    fun _ _ h h' le => exists_ageAt?_of_isInRange h h' le⟩

/-- The clock readings farthest from the epoch are clamped to the ends of the range. The readings a
nanosecond short of a tick on the two sides of the epoch get the same timestamp. -/
theorem farthest_readings_are_clamped :
    let first : Instant := ⟨-18446744073709551615999999999⟩
    let last : Instant := ⟨18446744073709551615999999999⟩
    Converts first (ofInstant first) ∧ (ofInstant first).ticks = 0 ∧
      Converts last (ofInstant last) ∧ (ofInstant last).ticks = maxTicks ∧
      (ofInstant first).ticks ≤ (ofInstant last).ticks ∧
      (ofInstant ⟨-99⟩).ageAt? (ofInstant ⟨99⟩) = some ⟨0⟩ ∧
      ∃ age, (ofInstant ⟨-99⟩).ageAt? (ofInstant ⟨99⟩) = some age ∧
        ((age.nanos : Int) - (99 - -99)).natAbs < 200 := by
  exact ⟨ofInstant_total_monotone_accurate.1 _ (by decide), by decide,
    ofInstant_total_monotone_accurate.1 _ (by decide), by decide,
    ofInstant_total_monotone_accurate.2.1 _ _ (by decide), by decide,
    ofInstant_total_monotone_accurate.2.2 ⟨-99⟩ ⟨99⟩ (by decide) (by decide) (by decide)⟩

end Timestamp

end SealedLink
