import Mathlib.Data.Nat.Bitwise
import SealedLink.Proofs.Bytes
import SealedLink.Time.Timestamp

/-!
# The binary form of timestamps

A word is read by its two parts, the kind in the two high bits and the ticks in the others. What is
written has universal time as its kind, and is read back. What is read is written again with that
kind, so a word may be another one afterwards in the bit of universal time, and in no other bit.

## Main results

* `Timestamp.ofBinary_eq_ok_iff` — the words that are read, and as what
* `Timestamp.ofBinary_eq_error_of_not_readable` — the error for every other word
* `Timestamp.ofBinary_toBinary` — what is written is read back
* `Timestamp.exists_ofBinary_iff` — the words that are read, as signed numbers and by their low bits
* `Timestamp.toBinary_of_ofBinary`, `Timestamp.toBinary_ne_iff` — what is read is written again, and
  which words change on the way
-/

namespace SealedLink.Timestamp

/-! ### Kind and ticks -/

theorem ofTicks?_natCast (n : Nat) :
    ofTicks? n = if h : n ≤ maxTicks then some ⟨n, h⟩ else none := by
  unfold ofTicks?
  by_cases h : n ≤ maxTicks
  · have bounds : 0 ≤ (n : Int) ∧ (n : Int) ≤ maxTicks := ⟨Int.natCast_nonneg n, Int.ofNat_le.mpr h⟩
    simp [h, bounds]
  · have beyond : ¬ (0 ≤ (n : Int) ∧ (n : Int) ≤ maxTicks) := by
      rintro ⟨-, bound⟩
      exact h (Int.ofNat_le.mp bound)
    rw [dif_neg beyond, dif_neg h]

/-- A word is read if its kind is unspecified or universal time and its ticks are in range. -/
theorem ofBinary_eq_ok_iff {word : UInt64} {t : Timestamp} :
    ofBinary word = .ok t ↔
      word.toNat / kindWeight ≤ kindUtc ∧ t.ticks = word.toNat % kindWeight := by
  unfold ofBinary
  by_cases kind : kindUtc < word.toNat / kindWeight
  · simp only [if_pos kind, reduceCtorEq, false_iff, not_and]
    omega
  · simp only [if_neg kind, ofTicks?_natCast]
    by_cases range : word.toNat % kindWeight ≤ maxTicks
    · simp only [dif_pos range, Except.ok.injEq]
      constructor
      · rintro rfl
        exact ⟨Nat.not_lt.mp kind, rfl⟩
      · rintro ⟨-, same⟩
        exact Timestamp.ext same.symm
    · simp only [dif_neg range, reduceCtorEq, false_iff, not_and]
      intro _ same
      exact range (same ▸ t.ticks_le)

/-- The error for a word that is not read tells its kind first, its ticks only if the kind is in
order. -/
theorem ofBinary_eq_error_of_not_readable {word : UInt64}
    (h : ¬ (word.toNat / kindWeight ≤ kindUtc ∧ word.toNat % kindWeight ≤ maxTicks)) :
    ofBinary word = .error (.invalidInput "timestamp"
      (if kindUtc < word.toNat / kindWeight then "local-time timestamps are not accepted"
      else s!"{word.toNat % kindWeight} ticks out of range")) := by
  unfold ofBinary
  by_cases kind : kindUtc < word.toNat / kindWeight
  · simp only [if_pos kind]
  · have range : ¬ word.toNat % kindWeight ≤ maxTicks := fun range => h ⟨Nat.not_lt.mp kind, range⟩
    simp only [if_neg kind, ofTicks?_natCast, dif_neg range]

theorem toNat_toBinary (t : Timestamp) : t.toBinary.toNat = kindUtc * kindWeight + t.ticks := by
  have top : maxTicks < kindWeight := by decide
  -- the kind and the ticks together stay within the word
  have fits : kindUtc * kindWeight + kindWeight < 2 ^ 64 := by decide
  have bounded := t.ticks_le
  rw [toBinary, UInt64.toNat_ofNat']
  exact Nat.mod_eq_of_lt (by omega)

theorem ofBinary_toBinary (t : Timestamp) : ofBinary t.toBinary = .ok t := by
  have top : maxTicks < kindWeight := by decide
  have below : t.ticks < kindWeight := Nat.lt_of_le_of_lt t.ticks_le top
  rw [ofBinary_eq_ok_iff, toNat_toBinary, Nat.mul_comm]
  constructor
  · have quotient : (kindWeight * kindUtc + t.ticks) / kindWeight = kindUtc := by
      rw [Nat.mul_add_div (by decide), Nat.div_eq_of_lt below, Nat.add_zero]
    exact Nat.le_of_eq quotient
  · rw [Nat.mul_add_mod, Nat.mod_eq_of_lt below]

/-! ### Bits -/

variable {word : UInt64} {t : Timestamp}

theorem toNat_and_ticks (word : UInt64) :
    (word &&& 0x3fffffffffffffff).toNat = word.toNat % kindWeight := by
  rw [UInt64.toNat_and]
  exact Nat.and_two_pow_sub_one_eq_mod _ 62

theorem toNat_shiftRight_ticks (word : UInt64) :
    (word >>> 62).toNat = word.toNat / kindWeight := by
  rw [UInt64.toNat_shiftRight]
  exact Nat.shiftRight_eq_div_pow _ 62

/-- The kinds that are not read are those with the sign bit. -/
theorem kind_le_iff (raw : Int64) : raw.toUInt64.toNat / kindWeight ≤ kindUtc ↔ 0 ≤ raw := by
  have number : raw.toInt = if 2 * raw.toUInt64.toNat < 2 ^ 64 then (raw.toUInt64.toNat : Int)
      else raw.toUInt64.toNat - (2 ^ 64 : Nat) := BitVec.toInt_eq_toNat_cond raw.toBitVec
  have bounded := raw.toUInt64.toNat_lt
  rw [Int64.le_iff_toInt_le, number, Int64.toInt_zero]
  unfold kindWeight kindUtc
  split <;> omega

/-- A signed number is read if it is not negative and its low bits are ticks in range. -/
theorem exists_ofBinary_iff {raw : Int64} :
    (∃ t, ofBinary raw.toUInt64 = .ok t) ↔
      0 ≤ raw ∧ raw.toUInt64 &&& 0x3fffffffffffffff ≤ 3155378975999999999 := by
  rw [← kind_le_iff, UInt64.le_iff_toNat_le, toNat_and_ticks]
  constructor
  · rintro ⟨t, read⟩
    obtain ⟨kind, ticks⟩ := ofBinary_eq_ok_iff.mp read
    exact ⟨kind, ticks ▸ t.ticks_le⟩
  · rintro ⟨kind, range⟩
    exact ⟨⟨_, range⟩, ofBinary_eq_ok_iff.mpr ⟨kind, rfl⟩⟩

/-- What is read is written again with the bit of universal time. -/
theorem toBinary_of_ofBinary (h : ofBinary word = .ok t) :
    t.toBinary = word ||| 0x4000000000000000 := by
  obtain ⟨kind, ticks⟩ := ofBinary_eq_ok_iff.mp h
  have below : t.ticks < 2 ^ 62 := Nat.lt_of_le_of_lt t.ticks_le (by decide)
  have written : t.toBinary.toNat = 2 ^ 62 ||| t.ticks := by
    rw [toNat_toBinary]
    exact Nat.two_pow_add_eq_or_of_lt below 1
  have parts := Nat.div_add_mod word.toNat kindWeight
  rw [← ticks] at parts
  rw [← UInt64.toNat_inj, UInt64.toNat_or, written]
  -- the bit is missing in a word of unspecified kind, and there already in one of universal time
  obtain unspecified | utc := Nat.le_one_iff_eq_zero_or_eq_one.mp kind
  · rw [unspecified, Nat.mul_zero, Nat.zero_add] at parts
    rw [← parts]
    exact Nat.or_comm _ _
  · rw [utc] at parts
    have same : word.toNat = 2 ^ 62 ||| t.ticks := by
      rw [← parts]
      exact Nat.two_pow_add_eq_or_of_lt below 1
    rw [same, Nat.or_right_comm]
    exact congrArg (· ||| t.ticks) (Nat.or_self _).symm

/-- Only words of unspecified kind are read and not written. -/
theorem toBinary_ne_iff (h : ofBinary word = .ok t) : t.toBinary ≠ word ↔ word >>> 62 = 0 := by
  obtain ⟨kind, ticks⟩ := ofBinary_eq_ok_iff.mp h
  have parts := Nat.div_add_mod word.toNat kindWeight
  rw [ne_eq, ← UInt64.toNat_inj, ← UInt64.toNat_inj, toNat_toBinary, toNat_shiftRight_ticks, ticks,
    UInt64.toNat_zero]
  unfold kindUtc kindWeight at *
  omega

end SealedLink.Timestamp
