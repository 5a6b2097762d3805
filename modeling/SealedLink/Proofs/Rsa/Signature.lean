import SealedLink.Proofs.Rsa.Key
import SealedLink.Rsa.Signature

/-!
# Signatures verify

A signature is checked on signing: the public direction must lead back to the padded digest. So
whatever a consistent key signs verifies under its public part, and a genuine key that is long
enough signs everything. Under a genuine key no other signature of the same message verifies.

## Main definitions

* `Rsa.PrivateKey.SignsVerifiably`, `Rsa.PublicKey.VerifiesOne` — what may be asked of a key that
  signs, and of one that verifies

## Main results

* `Rsa.verify_of_sign` — what is signed is verified
* `Rsa.PrivateKey.IsGenuine.exists_sign` — every message is signed
* `Rsa.PrivateKey.IsGenuine.eq_of_verify` — and has one signature only
-/

namespace SealedLink.Rsa

/-- The digest of a message after the mark of its algorithm. -/
def markedDigest (message : Bytes) : Bytes := digestMark ++ (Sha256.hash message).toBytes

theorem length_markedDigest (message : Bytes) : (markedDigest message).length = 51 := by
  rw [markedDigest, List.length_append, Octets.length_toBytes]
  rfl

/-- A digest is padded if there is room for it and eleven bytes more. -/
theorem encodeDigest?_eq_some_iff {size : Nat} {message encoded : Bytes} :
    encodeDigest? size message = some encoded ↔ 62 ≤ size ∧
      [0x00, 0x01] ++ List.replicate (size - 51 - 3) 0xff ++ [0x00] ++ markedDigest message =
        encoded := by
  have digest := length_markedDigest message
  unfold markedDigest at digest ⊢
  unfold encodeDigest?
  dsimp only
  rw [digest]
  by_cases short : size < 51 + 11
  · have refused : ¬ 62 ≤ size := Nat.not_le.mpr short
    simp [short, refused]
  · have room : 62 ≤ size := Nat.not_lt.mp short
    simp [short, room]

/-- A padded digest is as long as it should be and begins with a zero byte. -/
theorem exists_tail_of_encodeDigest? {size : Nat} {message encoded : Bytes}
    (h : encodeDigest? size message = some encoded) :
    ∃ tail, encoded = 0 :: tail ∧ tail.length + 1 = size := by
  obtain ⟨room, rfl⟩ := encodeDigest?_eq_some_iff.mp h
  refine ⟨[0x01] ++ List.replicate (size - 51 - 3) 0xff ++ [0x00] ++ markedDigest message, rfl, ?_⟩
  simp only [List.length_append, length_markedDigest, List.length_cons, List.length_nil,
    List.length_replicate]
  omega

theorem sign_eq_ok_iff {key : PrivateKey} {message signature : Bytes} :
    sign key message = .ok signature ↔ ∃ encoded x,
      encodeDigest? key.publicKey.size message = some encoded ∧
        key.root? (Bytes.toNatBE encoded) = some x ∧
        Bytes.ofNatBE key.publicKey.size x = signature := by
  unfold sign
  dsimp only
  cases encodeDigest? key.publicKey.size message with
  | none => simp
  | some encoded => cases root : key.root? (Bytes.toNatBE encoded) <;> simp [root]

theorem length_of_sign {key : PrivateKey} {message signature : Bytes}
    (h : sign key message = .ok signature) : signature.length = key.publicKey.size := by
  obtain ⟨_, _, -, -, rfl⟩ := sign_eq_ok_iff.mp h
  exact Bytes.length_ofNatBE _ _

theorem le_size_of_sign {key : PrivateKey} {message signature : Bytes}
    (h : sign key message = .ok signature) : 62 ≤ key.publicKey.size := by
  obtain ⟨_, _, padded, -, -⟩ := sign_eq_ok_iff.mp h
  exact (encodeDigest?_eq_some_iff.mp padded).1

/-! ### Verification -/

theorem verify_eq_true_iff {key : PublicKey} {message signature : Bytes} :
    verify key message signature = true ↔ signature.length = key.size ∧
      Bytes.toNatBE signature < key.modulus ∧ encodeDigest? key.size message =
        some (Bytes.ofNatBE key.size (key.power (Bytes.toNatBE signature))) := by
  simp only [verify, Bool.and_eq_true, beq_iff_eq, decide_eq_true_eq, and_assoc]

theorem length_of_verify {key : PublicKey} {message signature : Bytes}
    (h : verify key message signature = true) : signature.length = key.size :=
  (verify_eq_true_iff.mp h).1

/-- What a consistent key signs is verified under its public part. -/
theorem verify_of_sign {key : PrivateKey} {message signature : Bytes}
    (h : key.isConsistent = true) (signed : sign key message = .ok signature) :
    verify key.publicKey message signature = true := by
  obtain ⟨encoded, x, padded, root, rfl⟩ := sign_eq_ok_iff.mp signed
  obtain ⟨tail, rfl, length⟩ := exists_tail_of_encodeDigest? padded
  obtain ⟨rfl, undone⟩ := PrivateKey.root?_eq_some_iff.mp root
  have small := PrivateKey.power_lt h (Bytes.toNatBE (0 :: tail))
  rw [verify_eq_true_iff, PublicKey.toNatBE_ofNatBE_of_lt small, undone,
    Bytes.ofNatBE_toNatBE (b := 0 :: tail) length]
  exact ⟨Bytes.length_ofNatBE _ _, small, padded⟩

namespace PrivateKey.IsGenuine

variable {key : PrivateKey}

/-- A genuine key of at least sixty-two bytes signs every message. -/
theorem exists_sign (h : key.IsGenuine) (long : 62 ≤ key.publicKey.size) (message : Bytes) :
    ∃ signature, sign key message = .ok signature := by
  obtain ⟨encoded, padded⟩ : ∃ encoded,
      encodeDigest? key.publicKey.size message = some encoded :=
    ⟨_, encodeDigest?_eq_some_iff.mpr ⟨long, rfl⟩⟩
  obtain ⟨tail, rfl, length⟩ := exists_tail_of_encodeDigest? padded
  have small := PublicKey.toNatBE_lt_modulus (modulus_pos h.consistent) length
  obtain ⟨x, root⟩ := h.exists_root? small
  exact ⟨_, sign_eq_ok_iff.mpr ⟨_, x, padded, root, rfl⟩⟩

/-- A message has one signature under a genuine key: the public direction is injective on residues.
-/
theorem eq_of_verify (h : key.IsGenuine) {message signature signature' : Bytes}
    (verified : verify key.publicKey message signature = true)
    (verified' : verify key.publicKey message signature' = true) : signature = signature' := by
  obtain ⟨length, small, encoded⟩ := verify_eq_true_iff.mp verified
  obtain ⟨length', small', encoded'⟩ := verify_eq_true_iff.mp verified'
  have positive := modulus_pos h.consistent
  have powers : key.publicKey.power (Bytes.toNatBE signature) =
      key.publicKey.power (Bytes.toNatBE signature') := by
    have bytes := Option.some.inj (encoded.symm.trans encoded')
    rw [← PublicKey.toNatBE_ofNatBE_of_lt (PublicKey.power_lt positive _), bytes,
      PublicKey.toNatBE_ofNatBE_of_lt (PublicKey.power_lt positive _)]
  have residues : Bytes.toNatBE signature = Bytes.toNatBE signature' := by
    rw [← h.power_public_power small, powers, h.power_public_power small']
  rw [← Bytes.ofNatBE_toNatBE length, residues, Bytes.ofNatBE_toNatBE length']

end PrivateKey.IsGenuine

/-! ### What may be asked of keys -/

/-- Every signature of the key is verified under its public part. -/
def PrivateKey.SignsVerifiably (key : PrivateKey) : Prop :=
  ∀ message signature, sign key message = .ok signature →
    verify key.publicKey message signature = true

/-- No message has two signatures that are verified. -/
def PublicKey.VerifiesOne (key : PublicKey) : Prop :=
  ∀ message signature signature', verify key message signature = true →
    verify key message signature' = true → signature = signature'

theorem PrivateKey.signsVerifiably_of_isConsistent {key : PrivateKey}
    (h : key.isConsistent = true) : key.SignsVerifiably := fun _ _ => verify_of_sign h

theorem PrivateKey.IsGenuine.verifiesOne {key : PrivateKey} (h : key.IsGenuine) :
    key.publicKey.VerifiesOne := fun _ _ _ => h.eq_of_verify

end SealedLink.Rsa
