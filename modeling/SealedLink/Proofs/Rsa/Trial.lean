import Mathlib.NumberTheory.LucasPrimality
import SealedLink.Proofs.Rsa.Key

/-!
# Genuine keys for trials

A number one above a small prime times a power of two is recognised as a prime by repeated
squaring. Such primes make keys that are long enough for signatures and wrapped session keys, and
whose numbers are still written in one line.

## Main definitions

* `Rsa.squares` — a number squared again and again modulo another
* `Rsa.trialKey1`, `Rsa.trialKey2` — keys of eighty-one and of seventy-six bytes

## Main results

* `Rsa.prime_of_squares` — a test for primes
* `Rsa.size_trialKey1`, `Rsa.size_trialKey2` — the sizes of the keys
* `Rsa.isGenuine_trialKey1`, `Rsa.isGenuine_trialKey2` — the keys are genuine
-/

namespace SealedLink.Rsa

/-! ### A test for primes -/

/-- The remainder after squaring `count` times. -/
def squares (modulus : Nat) : Nat → Nat → Nat
  | 0, x => x
  | count + 1, x => squares modulus count (x * x % modulus)

theorem cast_squares (modulus count x : Nat) :
    (squares modulus count x : ZMod modulus) = (x : ZMod modulus) ^ 2 ^ count := by
  induction count generalizing x with
  | zero => rw [squares, Nat.pow_zero, pow_one]
  | succ count ih =>
    rw [squares, ih, ZMod.natCast_mod, Nat.cast_mul, ← pow_two, ← pow_mul, Nat.pow_succ']

/-- Lucas's test, for a number whose predecessor is a prime times a power of two: half of the
predecessor leads to its negative, and the power of two not to one. -/
theorem prime_of_squares {k n : Nat} (a : Nat) (factor : k.Prime) (positive : 0 < n)
    (half : squares (k * 2 ^ n + 1) (n - 1) (a ^ k) = k * 2 ^ n)
    (rest : squares (k * 2 ^ n + 1) n a % (k * 2 ^ n + 1) ≠ 1) : (k * 2 ^ n + 1).Prime := by
  obtain ⟨p, value⟩ : ∃ p, p = k * 2 ^ n + 1 := ⟨_, rfl⟩
  rw [← value] at half rest ⊢
  have previous : p - 1 = k * 2 ^ n := by omega
  have large : 2 < p := by
    have power : 2 ^ 1 ≤ 2 ^ n := Nat.pow_le_pow_right Nat.two_pos positive
    have product : 2 * 2 ^ 1 ≤ k * 2 ^ n := Nat.mul_le_mul factor.two_le power
    omega
  have : Fact (2 < p) := ⟨large⟩
  have halves : k * 2 ^ n = k * 2 ^ (n - 1) * 2 := by
    rw [Nat.mul_assoc, ← Nat.pow_add_one, Nat.sub_add_cancel positive]
  have minus : (a : ZMod p) ^ (k * 2 ^ (n - 1)) = -1 := by
    have zero : ((k * 2 ^ n : Nat) : ZMod p) + 1 = 0 := by
      rw [← Nat.cast_add_one, ← value, ZMod.natCast_self]
    rw [pow_mul, ← Nat.cast_pow, ← cast_squares, half]
    exact eq_neg_of_add_eq_zero_left zero
  have whole : (a : ZMod p) ^ 2 ^ n ≠ 1 := by
    rw [← cast_squares, ← Nat.cast_one, Ne, ZMod.natCast_eq_natCast_iff',
      Nat.one_mod_eq_one.mpr (by omega)]
    exact rest
  apply lucas_primality p (a : ZMod p)
  · rw [previous, halves, pow_mul, minus, neg_one_sq]
  · -- the predecessor has two prime factors
    intro q prime divides
    rw [previous] at divides ⊢
    rcases (Nat.Prime.dvd_mul prime).mp divides with here | there
    · rw [(Nat.prime_dvd_prime_iff_eq prime factor).mp here, Nat.mul_div_cancel_left _ factor.pos]
      exact whole
    · rw [(Nat.prime_dvd_prime_iff_eq prime Nat.prime_two).mp (prime.dvd_of_dvd_pow there), halves,
        Nat.mul_div_cancel _ (by decide), minus]
      exact ZMod.neg_one_ne_one

/-! ### Keys -/

/-- The key of two primes of this kind. The exponent five and its inverse modulo `21 * 2 ^ large`
serve both primes. -/
def trialKey (m n large factor : Nat) : PrivateKey where
  publicKey := ⟨(3 * 2 ^ m + 1) * (7 * 2 ^ n + 1), 5⟩
  exponent := (factor * 21 * 2 ^ large + 1) / 5
  prime1 := 3 * 2 ^ m + 1
  prime2 := 7 * 2 ^ n + 1

/-- A key of eighty-one bytes. -/
def trialKey1 : PrivateKey := trialKey 353 290 353 2

/-- A key of seventy-six bytes. -/
def trialKey2 : PrivateKey := trialKey 276 320 320 4

theorem size_trialKey1 : trialKey1.publicKey.size = 81 := by decide +kernel

theorem size_trialKey2 : trialKey2.publicKey.size = 76 := by decide +kernel

theorem isGenuine_trialKey1 : trialKey1.IsGenuine where
  consistent := by decide +kernel
  prime1 := prime_of_squares 5 Nat.prime_three (by decide) (by decide +kernel) (by decide +kernel)
  prime2 := prime_of_squares 3 (by decide) (by decide) (by decide +kernel) (by decide +kernel)
  distinct := by decide +kernel

theorem isGenuine_trialKey2 : trialKey2.IsGenuine where
  consistent := by decide +kernel
  prime1 := prime_of_squares 19 Nat.prime_three (by decide) (by decide +kernel) (by decide +kernel)
  prime2 := prime_of_squares 5 (by decide) (by decide) (by decide +kernel) (by decide +kernel)
  distinct := by decide +kernel

end SealedLink.Rsa
