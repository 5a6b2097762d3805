/-!
# RSA keys

## Main definitions

* `Rsa.powMod`, `Rsa.inverseMod?` — powers and inverses modulo a number
* `Rsa.PublicKey`, `Rsa.PrivateKey` — keys
* `Rsa.PublicKey.isUsable`, `Rsa.PrivateKey.isConsistent` — what a key must satisfy to be taken
* `Rsa.PublicKey.power`, `Rsa.PrivateKey.root?` — the two directions of the permutation of residues
* `Rsa.PrivateKey.power` — the private direction without its check, by the remainders modulo the
  primes
-/

namespace SealedLink.Rsa

/-- The power `base ^ exponent` modulo `modulus`. -/
def powMod (base exponent modulus : Nat) : Nat :=
  if exponent = 0 then 1 % modulus
  else
    let half := powMod (base * base % modulus) (exponent / 2) modulus
    if exponent % 2 = 1 then base * half % modulus else half
termination_by exponent

/-- The greatest common divisor of two numbers, and the factors of the two whose combination it is.
-/
def bezout (a b : Nat) : Nat × Int × Int :=
  if a = 0 then (b, 0, 1)
  else
    let (divisor, x, y) := bezout (b % a) a
    (divisor, y - (b / a : Nat) * x, x)
termination_by a
decreasing_by
  rename_i h
  exact Nat.mod_lt b (Nat.pos_of_ne_zero h)

/-- The inverse of `a` modulo `modulus`, if they have no common factor. -/
def inverseMod? (a modulus : Nat) : Option Nat :=
  let (divisor, x, _) := bezout (a % modulus) modulus
  if divisor = 1 then some (x % (modulus : Int)).toNat else none

/-- The number of bits of a number. -/
def bitLength (n : Nat) : Nat := if n = 0 then 0 else n.log2 + 1

/-- A modulus and a public exponent. -/
structure PublicKey where
  /-- The modulus. -/
  modulus : Nat
  /-- The public exponent. -/
  exponent : Nat
  deriving DecidableEq

namespace PublicKey

/-- The greatest length of a modulus that is taken as a public key alone, in bits. -/
def maxModulusBits : Nat := 4096

/-- The greatest public exponent, of thirty-three bits. -/
def maxExponent : Nat := 0x1ffffffff

/-- The length of the modulus in bytes. -/
def size (key : PublicKey) : Nat := (bitLength key.modulus + 7) / 8

/-- Modulus and exponent are odd, and the exponent is below the modulus and within its bounds. -/
def isUsable (key : PublicKey) : Bool :=
  key.modulus % 2 == 1 && key.exponent % 2 == 1 && key.exponent < key.modulus &&
    2 ≤ key.exponent && key.exponent ≤ maxExponent

/-- The public key of two numbers that are usable and not too long. -/
def ofNumbers? (modulus exponent : Nat) : Option PublicKey :=
  let key : PublicKey := ⟨modulus, exponent⟩
  if key.isUsable ∧ bitLength modulus ≤ maxModulusBits then some key else none

/-- A residue taken to its power by the public exponent. -/
def power (key : PublicKey) (x : Nat) : Nat := powMod x key.exponent key.modulus

end PublicKey

/-- A public key with the private exponent and the primes of the modulus. There are exactly two
primes, as in every key file that is read; keys with more of them are not covered. -/
structure PrivateKey where
  /-- The public part. -/
  publicKey : PublicKey
  /-- The private exponent. -/
  exponent : Nat
  /-- The first prime of the modulus. -/
  prime1 : Nat
  /-- The second prime of the modulus. -/
  prime2 : Nat
  deriving DecidableEq

namespace PrivateKey

/-- The public part is usable, the primes make up its modulus, and the exponents undo each other
modulo each prime less one. -/
def isConsistent (key : PrivateKey) : Bool :=
  let product := key.exponent * key.publicKey.exponent
  key.publicKey.isUsable && 1 < key.prime1 && 1 < key.prime2 &&
    key.prime1 * key.prime2 == key.publicKey.modulus &&
    product % (key.prime1 - 1) == 1 && product % (key.prime2 - 1) == 1

/-- The private key of numbers that are consistent. -/
def ofNumbers? (modulus publicExponent exponent prime1 prime2 : Nat) : Option PrivateKey :=
  let key : PrivateKey := ⟨⟨modulus, publicExponent⟩, exponent, prime1, prime2⟩
  if key.isConsistent then some key else none

/-- The power of a residue by the private exponent modulo one of the primes. Powers of a residue
repeat after the prime less one, so the exponent is reduced by it. -/
def primePower (key : PrivateKey) (prime y : Nat) : Nat := powMod y (key.exponent % (prime - 1)) prime

/-- The residue modulo the product of the primes that leaves `x1` modulo the first and `x2` modulo
the second, given the inverse of the second modulo the first. -/
def combine (key : PrivateKey) (inverse x1 x2 : Nat) : Nat :=
  x2 + key.prime2 * ((x1 + (key.prime1 - x2 % key.prime1)) * inverse % key.prime1)

/-- The power of a residue by the private exponent, taken modulo each prime if they have no common
factor, and modulo their product if they have. -/
def power (key : PrivateKey) (y : Nat) : Nat :=
  match inverseMod? key.prime2 key.prime1 with
  | some inverse => key.combine inverse (key.primePower key.prime1 y) (key.primePower key.prime2 y)
  | none => powMod y key.exponent key.publicKey.modulus

/-- The residue whose power by the public exponent is given. The result is checked by taking that
power; the check can fail only if what a key calls its primes are not two different primes. -/
def root? (key : PrivateKey) (y : Nat) : Option Nat :=
  let x := key.power y
  if key.publicKey.power x = y then some x else none

end PrivateKey

/-- Why an operation with a key fails. -/
inductive Fault where
  /-- The modulus is too short for the message. -/
  | messageTooLong
  /-- The private exponent does not undo the public one. -/
  | internal
  deriving DecidableEq

/-- The text shown for a fault. -/
def Fault.message : Fault → String
  | messageTooLong => "message too long"
  | internal => "internal error"

end SealedLink.Rsa
