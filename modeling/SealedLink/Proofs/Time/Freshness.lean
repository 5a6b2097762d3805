import SealedLink.NonceStore.Basic

/-!
# Freshness

Whether a message is still fresh is a comparison of whole nanoseconds: its age is a hundred for
every tick that the clock is ahead of its timestamp. A message that is too old stays too old, as
long as the clock does not go back and the limit does not grow.

## Main results

* `Timestamp.isExpired_iff` — expiry as a comparison of numbers
* `Timestamp.staleAge?_eq_some_iff`, `Timestamp.staleAge?_eq_none_iff` — the age that refuses a
  message, and when there is none
* `Timestamp.isExpired_mono` — what is expired stays expired
* `Timestamp.ticks_ofInstant_mono` — a later clock reading has no smaller timestamp
-/

namespace SealedLink.Timestamp

variable {t now later : Timestamp} {maxAge less : Duration}

theorem ageAt?_eq_some_iff {age : Duration} :
    t.ageAt? now = some age ↔
      t.ticks ≤ now.ticks ∧ age = ⟨(now.ticks - t.ticks) * nanosPerTick⟩ := by
  unfold ageAt?
  split
  · rename_i past
    simp [past, eq_comm]
  · rename_i future
    simp [future]

/-- A timestamp is expired if its age in nanoseconds exceeds the limit; the age of one in the future
counts as nothing here. -/
theorem isExpired_iff :
    t.isExpired now maxAge = true ↔ maxAge.nanos < (now.ticks - t.ticks) * nanosPerTick := by
  unfold isExpired ageAt?
  by_cases past : t.ticks ≤ now.ticks
  · simp [past, Duration.lt_def]
  · have ahead : now.ticks - t.ticks = 0 := by omega
    simp [past, ahead]

theorem isExpired_eq_false_iff :
    t.isExpired now maxAge = false ↔
      now.ticks < t.ticks ∨ (now.ticks - t.ticks) * nanosPerTick ≤ maxAge.nanos := by
  rw [← Bool.not_eq_true, isExpired_iff, Nat.not_lt]
  constructor
  · exact .inr
  · rintro (ahead | young)
    · rw [Nat.sub_eq_zero_of_le (Nat.le_of_lt ahead), Nat.zero_mul]
      exact Nat.zero_le _
    · exact young

theorem staleAge?_eq_some_iff {age : Duration} :
    t.staleAge? now maxAge = some age ↔ t.ageAt? now = some age ∧ maxAge < age := by
  simp [staleAge?, Option.filter_eq_some_iff]

/-- No age refuses a message exactly if the record of it would not be expired. -/
theorem staleAge?_eq_none_iff :
    t.staleAge? now maxAge = none ↔ t.isExpired now maxAge = false := by
  unfold staleAge? isExpired
  cases t.ageAt? now <;> simp [Option.filter]

/-- What is expired stays expired while the clock does not go back and the limit does not grow. -/
theorem isExpired_mono (clock : now.ticks ≤ later.ticks) (limit : less ≤ maxAge)
    (expired : t.isExpired now maxAge = true) : t.isExpired later less = true := by
  rw [isExpired_iff] at expired ⊢
  calc less.nanos
    _ ≤ maxAge.nanos := limit
    _ < (now.ticks - t.ticks) * nanosPerTick := expired
    _ ≤ (later.ticks - t.ticks) * nanosPerTick :=
      Nat.mul_le_mul_right _ (Nat.sub_le_sub_right clock _)

/-- A later clock reading has no smaller timestamp, across the epoch and at both ends of the range.
-/
theorem ticks_ofInstant_mono {reading next : Instant} (h : reading.nanos ≤ next.nanos) :
    (ofInstant reading).ticks ≤ (ofInstant next).ticks := by
  have top : ticksAtUnixEpoch ≤ maxTicks := by decide
  unfold ofInstant
  by_cases started : 0 ≤ reading.nanos
  · have started' : 0 ≤ next.nanos := Int.le_trans started h
    have elapsed : reading.nanos.natAbs / nanosPerTick ≤ next.nanos.natAbs / nanosPerTick :=
      Nat.div_le_div_right (by omega)
    simp only [if_pos started, if_pos started']
    omega
  -- before the epoch a later reading may lie on either side of it
  · by_cases started' : 0 ≤ next.nanos
    · simp only [if_neg started, if_pos started']
      calc ticksAtUnixEpoch - reading.nanos.natAbs / nanosPerTick
        _ ≤ ticksAtUnixEpoch := Nat.sub_le _ _
        _ ≤ min (ticksAtUnixEpoch + next.nanos.natAbs / nanosPerTick) maxTicks :=
          Nat.le_min.mpr ⟨Nat.le_add_right _ _, top⟩
    · have left : next.nanos.natAbs / nanosPerTick ≤ reading.nanos.natAbs / nanosPerTick :=
        Nat.div_le_div_right (by omega)
      simp only [if_neg started, if_neg started']
      omega

end SealedLink.Timestamp
