import Mathlib.FieldTheory.Finite.Basic
import Mathlib.Tactic.LinearCombination
import Mathlib.Tactic.Ring
import SealedLink.Proofs.Bytes
import SealedLink.Rsa.Key

/-!
# The two directions of an RSA key undo each other

Modulo each prime the product of the exponents acts as one, by Fermat's theorem. The private
direction works modulo the primes and puts the two remainders together, so it undoes the public one
modulo their product.

## Main definitions

* `Rsa.PrivateKey.IsGenuine` — a consistent key whose primes are two different primes

## Main results

* `Rsa.powMod_eq`, `Rsa.mul_modEq_one_of_inverseMod?` — powers and inverses modulo a number
* `Rsa.PrivateKey.power_lt` — the private direction gives residues
* `Rsa.PrivateKey.IsGenuine.public_power_power`, `Rsa.PrivateKey.IsGenuine.power_public_power` — the
  directions undo each other
-/

namespace SealedLink.Rsa

/-! ### Powers -/

/-- The power of a square is the power by twice the exponent. -/
theorem square_pow_mod (base half modulus : Nat) :
    (base * base % modulus) ^ half % modulus = base ^ (2 * half) % modulus := by
  rw [← Nat.pow_mod, ← Nat.pow_two, ← Nat.pow_mul]

theorem powMod_eq (base exponent modulus : Nat) :
    powMod base exponent modulus = base ^ exponent % modulus := by
  induction base, exponent using powMod.induct modulus with
  | case1 base => rw [powMod, if_pos rfl, Nat.pow_zero]
  | case2 base exponent positive odd ih =>
    have parts : 2 * (exponent / 2) + 1 = exponent := by omega
    rw [powMod, if_neg positive, if_pos odd, ih, square_pow_mod, Nat.mul_mod_mod, ← Nat.pow_add_one',
      parts]
  | case3 base exponent positive even ih =>
    have parts : 2 * (exponent / 2) = exponent := by omega
    rw [powMod, if_neg positive, if_neg even, ih, square_pow_mod, parts]

/-- Powers repeat after the prime less one. -/
theorem pow_modEq_self {p k : Nat} (prime : p.Prime) (h : k % (p - 1) = 1) (x : Nat) :
    x ^ k ≡ x [MOD p] := by
  by_cases divides : p ∣ x
  · have positive : k ≠ 0 := by
      rintro rfl
      rw [Nat.zero_mod] at h
      cases h
    have vanishes : x ≡ 0 [MOD p] := (Nat.modEq_zero_iff_dvd).mpr divides
    exact ((Nat.modEq_zero_iff_dvd).mpr (dvd_pow divides positive)).trans vanishes.symm
  · have coprime : Nat.Coprime x p := ((Nat.Prime.coprime_iff_not_dvd prime).mpr divides).symm
    have fermat : x ^ (p - 1) ≡ 1 [MOD p] := by
      rw [← Nat.totient_prime prime]
      exact Nat.ModEq.pow_totient coprime
    have parts : k = 1 + (p - 1) * (k / (p - 1)) := by
      have division := Nat.mod_add_div k (p - 1)
      rw [h] at division
      exact division.symm
    calc x ^ k
      _ = x * (x ^ (p - 1)) ^ (k / (p - 1)) := by
        conv_lhs => rw [parts, Nat.pow_add, Nat.pow_one, Nat.pow_mul]
      _ ≡ x * 1 ^ (k / (p - 1)) [MOD p] := (fermat.pow _).mul_left x
      _ = x := by rw [Nat.one_pow, Nat.mul_one]

/-! ### Inverses -/

theorem bezout_fst (a b : Nat) : (bezout a b).1 = Nat.gcd a b := by
  induction a, b using bezout.induct with
  | case1 b => rw [bezout, if_pos rfl, Nat.gcd_zero_left]
  | case2 a b positive divisor x y found ih =>
    rw [found] at ih
    rw [bezout, if_neg positive, found, Nat.gcd_rec, ← ih]

/-- The common divisor is the combination of the two numbers with the factors found. -/
theorem bezout_combination (a b : Nat) :
    (bezout a b).2.1 * a + (bezout a b).2.2 * b = (bezout a b).1 := by
  induction a, b using bezout.induct with
  | case1 b => simp [bezout]
  | case2 a b positive divisor x y found ih =>
    have division : ((b % a : Nat) : Int) + a * (b / a : Nat) = b := by
      exact_mod_cast Nat.mod_add_div b a
    rw [found] at ih
    rw [bezout, if_neg positive, found]
    dsimp only at ih ⊢
    linear_combination ih - x * division

theorem mul_modEq_one_of_inverseMod? {a modulus inverse : Nat} (positive : 0 < modulus)
    (h : inverseMod? a modulus = some inverse) : a * inverse ≡ 1 [MOD modulus] := by
  have combination := bezout_combination (a % modulus) modulus
  rw [inverseMod?] at h
  dsimp only at h
  split at h
  · rename_i one
    obtain ⟨x, factor⟩ : ∃ x, x = (bezout (a % modulus) modulus).2.1 := ⟨_, rfl⟩
    rw [← factor] at h combination
    rw [one] at combination
    have value : (inverse : Int) = x % modulus := by
      rw [← Option.some.inj h]
      exact Int.toNat_of_nonneg (Int.emod_nonneg _ (by omega))
    rw [← Int.natCast_modEq_iff]
    push_cast at combination ⊢
    calc (a : Int) * inverse
      _ = a * (x % modulus) := by rw [value]
      _ ≡ a * x [ZMOD modulus] := (Int.mod_modEq x modulus).mul_left a
      _ ≡ a % modulus * x [ZMOD modulus] := (Int.mod_modEq a modulus).symm.mul_right x
      _ = 1 + modulus * -(bezout (a % modulus) modulus).2.2 := by linear_combination combination
      _ ≡ 1 [ZMOD modulus] := Int.add_mul_emod_self_left 1 modulus _
  · cases h

theorem exists_inverseMod? {a modulus : Nat} (h : Nat.Coprime a modulus) :
    ∃ inverse, inverseMod? a modulus = some inverse := by
  have one : (bezout (a % modulus) modulus).1 = 1 := by
    rw [bezout_fst, ← Nat.gcd_rec, Nat.gcd_comm]
    exact h
  rw [inverseMod?]
  dsimp only
  rw [if_pos one]
  exact ⟨_, rfl⟩

/-! ### Keys -/

theorem PublicKey.power_lt {key : PublicKey} (h : 0 < key.modulus) (x : Nat) :
    key.power x < key.modulus := by
  rw [power, powMod_eq]
  exact Nat.mod_lt _ h

/-! ### The length of a modulus -/

namespace PublicKey

variable {key : PublicKey}

theorem modulus_lt (key : PublicKey) : key.modulus < 256 ^ key.size := by
  have bits : key.modulus < 2 ^ bitLength key.modulus := by
    rw [bitLength]
    split
    · rename_i zero
      rw [zero]
      decide
    · exact Nat.lt_log2_self
  have bytes : bitLength key.modulus ≤ 8 * key.size := by
    rw [size]
    omega
  calc key.modulus
    _ < 2 ^ bitLength key.modulus := bits
    _ ≤ 2 ^ (8 * key.size) := Nat.pow_le_pow_right (by decide) bytes
    _ = 256 ^ key.size := Nat.pow_mul 2 8 key.size

theorem pow_le_modulus (h : 0 < key.modulus) : 256 ^ (key.size - 1) ≤ key.modulus := by
  have bits : 8 * (key.size - 1) ≤ key.modulus.log2 := by
    rw [size, bitLength, if_neg h.ne']
    omega
  calc 256 ^ (key.size - 1)
    _ = 2 ^ (8 * (key.size - 1)) := (Nat.pow_mul 2 8 _).symm
    _ ≤ 2 ^ key.modulus.log2 := Nat.pow_le_pow_right (by decide) bits
    _ ≤ key.modulus := Nat.log2_self_le h.ne'

/-- What is as long as the modulus and begins with a zero byte is a residue. -/
theorem toNatBE_lt_modulus (h : 0 < key.modulus) {b : Bytes} (length : b.length + 1 = key.size) :
    Bytes.toNatBE (0 :: b) < key.modulus := by
  calc Bytes.toNatBE (0 :: b)
    _ = Bytes.toNatBE b := Bytes.toNatBE_zero_cons b
    _ < 256 ^ b.length := Bytes.toNatBE_lt b
    _ = 256 ^ (key.size - 1) := by rw [← length, Nat.add_sub_cancel]
    _ ≤ key.modulus := pow_le_modulus h

/-- A residue is read back from its bytes. -/
theorem toNatBE_ofNatBE_of_lt {x : Nat} (h : x < key.modulus) :
    Bytes.toNatBE (Bytes.ofNatBE key.size x) = x := by
  rw [Bytes.toNatBE_ofNatBE, Nat.mod_eq_of_lt (h.trans key.modulus_lt)]

end PublicKey

namespace PrivateKey

variable {key : PrivateKey}

theorem isConsistent_iff :
    key.isConsistent = true ↔ key.publicKey.isUsable = true ∧ 1 < key.prime1 ∧ 1 < key.prime2 ∧
      key.prime1 * key.prime2 = key.publicKey.modulus ∧
      key.exponent * key.publicKey.exponent % (key.prime1 - 1) = 1 ∧
      key.exponent * key.publicKey.exponent % (key.prime2 - 1) = 1 := by
  simp only [isConsistent, Bool.and_eq_true, decide_eq_true_eq, beq_iff_eq, and_assoc]

theorem modulus_pos (h : key.isConsistent = true) : 0 < key.publicKey.modulus := by
  obtain ⟨-, large1, large2, product, -, -⟩ := isConsistent_iff.mp h
  rw [← product]
  exact Nat.mul_pos (by omega) (by omega)

/-! ### Two remainders put together -/

theorem combine_modEq_prime1 {inverse : Nat} (x1 x2 : Nat) (positive : 0 < key.prime1)
    (h : key.prime2 * inverse ≡ 1 [MOD key.prime1]) :
    key.combine inverse x1 x2 ≡ x1 [MOD key.prime1] := by
  have small : x2 % key.prime1 ≤ key.prime1 := (Nat.mod_lt x2 positive).le
  calc key.combine inverse x1 x2
    _ ≡ x2 + key.prime2 * ((x1 + (key.prime1 - x2 % key.prime1)) * inverse) [MOD key.prime1] :=
      ((Nat.mod_modEq _ _).mul_left _).add_left _
    _ = x2 + (x1 + (key.prime1 - x2 % key.prime1)) * (key.prime2 * inverse) := by ring
    _ ≡ x2 + (x1 + (key.prime1 - x2 % key.prime1)) * 1 [MOD key.prime1] :=
      (h.mul_left _).add_left _
    _ ≡ x2 % key.prime1 + (x1 + (key.prime1 - x2 % key.prime1)) * 1 [MOD key.prime1] :=
      (Nat.mod_modEq _ _).symm.add_right _
    _ = x1 + key.prime1 := by omega
    _ ≡ x1 [MOD key.prime1] := Nat.add_mod_right _ _

theorem combine_modEq_prime2 (inverse x1 x2 : Nat) :
    key.combine inverse x1 x2 ≡ x2 [MOD key.prime2] := Nat.add_mul_mod_self_left _ _ _

theorem combine_lt {x2 : Nat} (inverse x1 : Nat) (h : x2 < key.prime2)
    (positive : 0 < key.prime1) :
    key.combine inverse x1 x2 < key.prime1 * key.prime2 := by
  have quotient := Nat.mod_lt ((x1 + (key.prime1 - x2 % key.prime1)) * inverse) positive
  calc key.combine inverse x1 x2
    _ < key.prime2 + key.prime2 *
        ((x1 + (key.prime1 - x2 % key.prime1)) * inverse % key.prime1) := Nat.add_lt_add_right h _
    _ = ((x1 + (key.prime1 - x2 % key.prime1)) * inverse % key.prime1 + 1) * key.prime2 := by ring
    _ ≤ key.prime1 * key.prime2 := Nat.mul_le_mul_right _ quotient

/-- The private direction gives residues, whatever the key calls its primes. -/
theorem power_lt (h : key.isConsistent = true) (y : Nat) : key.power y < key.publicKey.modulus := by
  obtain ⟨-, large1, large2, product, -, -⟩ := isConsistent_iff.mp h
  rw [power]
  split
  · rw [← product]
    apply combine_lt
    · rw [primePower, powMod_eq]
      exact Nat.mod_lt _ (by omega)
    · omega
  · rw [powMod_eq]
    exact Nat.mod_lt _ (modulus_pos h)

theorem root?_eq_some_iff {x y : Nat} :
    key.root? y = some x ↔ key.power y = x ∧ key.publicKey.power x = y := by
  rw [root?]
  split
  · rename_i undone
    rw [Option.some.injEq]
    constructor
    · rintro rfl
      exact ⟨rfl, undone⟩
    · exact And.left
  · rename_i different
    constructor
    · intro h
      cases h
    · rintro ⟨rfl, undone⟩
      exact absurd undone different

/-! ### Genuine keys -/

/-- The key is consistent, and its primes are two different primes. -/
structure IsGenuine (key : PrivateKey) : Prop where
  consistent : key.isConsistent = true
  prime1 : key.prime1.Prime
  prime2 : key.prime2.Prime
  distinct : key.prime1 ≠ key.prime2

theorem primePower_pow {p : Nat} (prime : p.Prime)
    (h : key.exponent * key.publicKey.exponent % (p - 1) = 1) (y : Nat) :
    key.primePower p y ^ key.publicKey.exponent ≡ y [MOD p] := by
  calc key.primePower p y ^ key.publicKey.exponent
    _ ≡ (y ^ (key.exponent % (p - 1))) ^ key.publicKey.exponent [MOD p] := by
      rw [primePower, powMod_eq]
      exact (Nat.mod_modEq _ _).pow _
    _ = y ^ (key.exponent % (p - 1) * key.publicKey.exponent) := (Nat.pow_mul ..).symm
    _ ≡ y [MOD p] := pow_modEq_self prime ((Nat.mod_mul_mod ..).trans h) y

theorem primePower_of_modEq_pow {p x y : Nat} (prime : p.Prime)
    (h : key.exponent * key.publicKey.exponent % (p - 1) = 1)
    (power : y ≡ x ^ key.publicKey.exponent [MOD p]) : key.primePower p y ≡ x [MOD p] := by
  calc key.primePower p y
    _ ≡ y ^ (key.exponent % (p - 1)) [MOD p] := by
      rw [primePower, powMod_eq]
      exact Nat.mod_modEq _ _
    _ ≡ (x ^ key.publicKey.exponent) ^ (key.exponent % (p - 1)) [MOD p] := power.pow _
    _ = x ^ (key.exponent % (p - 1) * key.publicKey.exponent) := by
      rw [← Nat.pow_mul, Nat.mul_comm]
    _ ≡ x [MOD p] := pow_modEq_self prime ((Nat.mod_mul_mod ..).trans h) x

namespace IsGenuine

theorem coprime (h : key.IsGenuine) : Nat.Coprime key.prime1 key.prime2 :=
  (Nat.coprime_primes h.prime1 h.prime2).mpr h.distinct

/-- The private direction leaves its remainders modulo both primes. -/
theorem power_modEq (h : key.IsGenuine) (y : Nat) :
    key.power y ≡ key.primePower key.prime1 y [MOD key.prime1] ∧
      key.power y ≡ key.primePower key.prime2 y [MOD key.prime2] := by
  obtain ⟨inverse, found⟩ := exists_inverseMod? h.coprime.symm
  rw [power, found]
  constructor
  · exact combine_modEq_prime1 _ _ h.prime1.pos (mul_modEq_one_of_inverseMod? h.prime1.pos found)
  · exact combine_modEq_prime2 _ _ _

/-- Residues that agree modulo both primes are the same. -/
theorem eq_of_modEq (h : key.IsGenuine) {x y : Nat} (small : x < key.publicKey.modulus)
    (small' : y < key.publicKey.modulus) (modulo1 : x ≡ y [MOD key.prime1])
    (modulo2 : x ≡ y [MOD key.prime2]) : x = y := by
  obtain ⟨-, -, -, product, -, -⟩ := isConsistent_iff.mp h.consistent
  have both := (Nat.modEq_and_modEq_iff_modEq_mul h.coprime).mp ⟨modulo1, modulo2⟩
  rw [product] at both
  exact both.eq_of_lt_of_lt small small'

theorem power_of_public (h : key.IsGenuine) (x : Nat) :
    key.publicKey.power x ≡ x ^ key.publicKey.exponent [MOD key.prime1] ∧
      key.publicKey.power x ≡ x ^ key.publicKey.exponent [MOD key.prime2] := by
  obtain ⟨-, -, -, product, -, -⟩ := isConsistent_iff.mp h.consistent
  have whole : key.publicKey.power x ≡ x ^ key.publicKey.exponent
      [MOD key.prime1 * key.prime2] := by
    rw [PublicKey.power, powMod_eq, product]
    exact Nat.mod_modEq _ _
  exact (Nat.modEq_and_modEq_iff_modEq_mul h.coprime).mpr whole

/-- The public direction undoes the private one. -/
theorem public_power_power (h : key.IsGenuine) {y : Nat} (small : y < key.publicKey.modulus) :
    key.publicKey.power (key.power y) = y := by
  obtain ⟨-, -, -, -, product1, product2⟩ := isConsistent_iff.mp h.consistent
  obtain ⟨modulo1, modulo2⟩ := h.power_modEq y
  obtain ⟨public1, public2⟩ := h.power_of_public (key.power y)
  apply h.eq_of_modEq (PublicKey.power_lt (modulus_pos h.consistent) _) small
  · exact public1.trans ((modulo1.pow _).trans (primePower_pow h.prime1 product1 y))
  · exact public2.trans ((modulo2.pow _).trans (primePower_pow h.prime2 product2 y))

/-- The private direction undoes the public one. -/
theorem power_public_power (h : key.IsGenuine) {x : Nat} (small : x < key.publicKey.modulus) :
    key.power (key.publicKey.power x) = x := by
  obtain ⟨-, -, -, -, product1, product2⟩ := isConsistent_iff.mp h.consistent
  obtain ⟨modulo1, modulo2⟩ := h.power_modEq (key.publicKey.power x)
  obtain ⟨public1, public2⟩ := h.power_of_public x
  apply h.eq_of_modEq (power_lt h.consistent _) small
  · exact modulo1.trans (primePower_of_modEq_pow h.prime1 product1 public1)
  · exact modulo2.trans (primePower_of_modEq_pow h.prime2 product2 public2)

theorem exists_root? (h : key.IsGenuine) {y : Nat} (small : y < key.publicKey.modulus) :
    ∃ x, key.root? y = some x :=
  ⟨key.power y, root?_eq_some_iff.mpr ⟨rfl, h.public_power_power small⟩⟩

theorem root?_public_power (h : key.IsGenuine) {x : Nat} (small : x < key.publicKey.modulus) :
    key.root? (key.publicKey.power x) = some x :=
  root?_eq_some_iff.mpr ⟨h.power_public_power small, rfl⟩

end IsGenuine

end PrivateKey

end SealedLink.Rsa
