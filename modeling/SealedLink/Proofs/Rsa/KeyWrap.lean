import SealedLink.Proofs.Rsa.Key
import SealedLink.Rsa.KeyWrap

/-!
# Wrapped secrets are unwrapped

Masking twice with the same bytes changes nothing: the masked block gives the seed back, the seed
gives the block back, and in it the secret stands after the first one. A masked secret is a residue,
so a genuine key leads back to it.

## Main definitions

* `Rsa.PrivateKey.Unwraps` — what may be asked of a key that unwraps

## Main results

* `Rsa.decodeSecret?_of_encodeSecret?` — a masked secret is read back
* `Rsa.length_of_wrap` — a wrapped secret is as long as the modulus
* `Rsa.PrivateKey.IsGenuine.unwrap?_of_wrap` — what is wrapped is unwrapped, whatever the seed
-/

namespace SealedLink.Rsa

/-! ### Masks -/

theorem length_mask (seed : Bytes) (length : Nat) : (mask seed length).length = length := by
  have digests : ∀ i : Nat, (Sha1.hash (seed ++ Bytes.ofNatBE 4 i)).toBytes.length = 20 := fun _ =>
    Octets.length_toBytes _
  have enough : length ≤ (length + seedSize - 1) / seedSize * 20 := by
    rw [seedSize]
    omega
  rw [mask, List.length_take, List.length_flatMap]
  simp only [digests, List.map_const', List.length_range, List.sum_replicate_nat]
  exact Nat.min_eq_left enough

section

variable {b : Bytes} {n : Nat}

/-- Two masks over the same bytes cancel each other. -/
theorem xor_mask_xor_mask (h : b.length = n) (seed : Bytes) :
    Bytes.xor (Bytes.xor b (mask seed n)) (mask seed n) = b := by
  apply Bytes.xor_xor_cancel_right
  rw [h, length_mask]

theorem length_xor_mask (h : b.length = n) (seed : Bytes) :
    (Bytes.xor b (mask seed n)).length = n := by
  rw [Bytes.length_xor, h]
  rw [h, length_mask]

end

/-! ### Masked secrets -/

theorem dropZeros?_replicate (n : Nat) (secret : Bytes) :
    dropZeros? (List.replicate n 0x00 ++ 0x01 :: secret) = some secret := by
  induction n with
  | zero => rfl
  | succ n ih => exact ih

/-- The bytes that are masked: the digest of the label, zeros that fill the modulus, a one, and the
secret. -/
def secretBlock (size : Nat) (secret : Bytes) : Bytes :=
  labelDigest ++ List.replicate (size - secret.length - 2 * seedSize - 2) 0x00 ++ 0x01 :: secret

/-- A masked secret is a zero byte, the masked seed, and the masked block. -/
theorem encodeSecret?_eq_some_iff {size : Nat} {seed : Octets 20} {secret encoded : Bytes} :
    encodeSecret? size seed secret = some encoded ↔ secret.length + 42 ≤ size ∧
      ∃ masked, masked = Bytes.xor (secretBlock size secret)
          (mask seed.toBytes (secretBlock size secret).length) ∧
        0x00 :: (Bytes.xor seed.toBytes (mask masked seedSize) ++ masked) = encoded := by
  unfold encodeSecret?
  dsimp only
  by_cases short : size < secret.length + 2 * seedSize + 2
  · have refused : ¬ secret.length + 42 ≤ size := by
      rw [seedSize] at short
      omega
    simp [short, refused]
  · have room : secret.length + 42 ≤ size := by
      rw [seedSize] at short
      omega
    rw [if_neg short, Option.some.injEq]
    constructor
    · rintro rfl
      exact ⟨room, _, rfl, rfl⟩
    · rintro ⟨-, _, rfl, rfl⟩
      rfl

theorem length_secretBlock {size : Nat} {secret : Bytes} (room : secret.length + 42 ≤ size) :
    (secretBlock size secret).length = size - 21 := by
  have digest : labelDigest.length = 20 := Octets.length_toBytes _
  simp only [secretBlock, List.length_append, digest, List.length_replicate, List.length_cons,
    seedSize]
  omega

/-- A masked secret is as long as it should be and begins with a zero byte. -/
theorem exists_tail_of_encodeSecret? {size : Nat} {seed : Octets 20} {secret encoded : Bytes}
    (h : encodeSecret? size seed secret = some encoded) :
    ∃ tail, encoded = 0 :: tail ∧ tail.length + 1 = size := by
  obtain ⟨room, masked, written, rfl⟩ := encodeSecret?_eq_some_iff.mp h
  have front : (Bytes.xor seed.toBytes (mask masked seedSize)).length = 20 :=
    length_xor_mask seed.length_eq masked
  have back : masked.length = size - 21 := by
    rw [written, length_xor_mask rfl, length_secretBlock room]
  refine ⟨_, rfl, ?_⟩
  rw [List.length_append, front, back]
  omega

/-- A masked secret is read back, whatever the seed. -/
theorem decodeSecret?_of_encodeSecret? {size : Nat} {seed : Octets 20} {secret encoded : Bytes}
    (h : encodeSecret? size seed secret = some encoded) : decodeSecret? encoded = some secret := by
  obtain ⟨room, masked, written, rfl⟩ := encodeSecret?_eq_some_iff.mp h
  have front : (Bytes.xor seed.toBytes (mask masked seedSize)).length = seedSize :=
    length_xor_mask seed.length_eq masked
  -- the masked block leads to the seed, and the seed to the block
  have seedBack : Bytes.xor (Bytes.xor seed.toBytes (mask masked seedSize))
      (mask masked seedSize) = seed.toBytes := xor_mask_xor_mask seed.length_eq masked
  have length : masked.length = (secretBlock size secret).length := by
    rw [written, length_xor_mask rfl]
  have blockBack : Bytes.xor masked (mask seed.toBytes masked.length) =
      secretBlock size secret := by
    rw [length, written, xor_mask_xor_mask rfl]
  have digest : labelDigest.length = seedSize := Octets.length_toBytes _
  unfold decodeSecret?
  simp only [List.drop_left' front, List.take_left' front, seedBack, blockBack]
  rw [secretBlock, List.append_assoc, List.take_left' digest, List.drop_left' digest, if_pos rfl,
    dropZeros?_replicate]

/-! ### Wrapping -/

theorem wrap_eq_ok_iff {key : PublicKey} {seed : Octets 20} {secret wrapped : Bytes} :
    wrap key seed secret = .ok wrapped ↔ ∃ encoded,
      encodeSecret? key.size seed secret = some encoded ∧
        Bytes.ofNatBE key.size (key.power (Bytes.toNatBE encoded)) = wrapped := by
  unfold wrap
  cases encodeSecret? key.size seed secret <;> simp

theorem length_of_wrap {key : PublicKey} {seed : Octets 20} {secret wrapped : Bytes}
    (h : wrap key seed secret = .ok wrapped) :
    wrapped.length = key.size ∧ secret.length + 42 ≤ key.size := by
  obtain ⟨encoded, masked, rfl⟩ := wrap_eq_ok_iff.mp h
  exact ⟨Bytes.length_ofNatBE _ _, (encodeSecret?_eq_some_iff.mp masked).1⟩

theorem ne_nil_of_wrap {key : PublicKey} {seed : Octets 20} {secret wrapped : Bytes}
    (h : wrap key seed secret = .ok wrapped) : wrapped ≠ [] := by
  obtain ⟨length, room⟩ := length_of_wrap h
  apply List.ne_nil_of_length_pos
  omega

/-- Every secret is wrapped that leaves forty-two bytes of the modulus. -/
theorem exists_wrap {key : PublicKey} {secret : Bytes} (h : secret.length + 42 ≤ key.size)
    (seed : Octets 20) : ∃ wrapped, wrap key seed secret = .ok wrapped :=
  ⟨_, wrap_eq_ok_iff.mpr ⟨_, encodeSecret?_eq_some_iff.mpr ⟨h, _, rfl, rfl⟩, rfl⟩⟩

/-- What is wrapped for a genuine key is unwrapped with it, whatever the seed. -/
theorem PrivateKey.IsGenuine.unwrap?_of_wrap {key : PrivateKey} (h : key.IsGenuine)
    {seed : Octets 20} {secret wrapped : Bytes}
    (done : wrap key.publicKey seed secret = .ok wrapped) : unwrap? key wrapped = some secret := by
  obtain ⟨length, room⟩ := length_of_wrap done
  obtain ⟨encoded, masked, rfl⟩ := wrap_eq_ok_iff.mp done
  obtain ⟨tail, rfl, size⟩ := exists_tail_of_encodeSecret? masked
  have positive := modulus_pos h.consistent
  have residue := PublicKey.toNatBE_lt_modulus positive size
  have power := PublicKey.power_lt positive (Bytes.toNatBE (0 :: tail))
  have fits : 2 * seedSize + 2 ≤ key.publicKey.size := by
    rw [seedSize]
    omega
  have bytes := Bytes.ofNatBE_toNatBE (b := 0 :: tail) size
  unfold unwrap?
  simp only [PublicKey.toNatBE_ofNatBE_of_lt power]
  rw [if_pos ⟨length, fits, power⟩, h.root?_public_power residue, Option.bind_some, bytes,
    decodeSecret?_of_encodeSecret? masked]

/-- Every secret that is wrapped for the key is unwrapped with it. -/
def PrivateKey.Unwraps (key : PrivateKey) : Prop :=
  ∀ seed secret wrapped, wrap key.publicKey seed secret = .ok wrapped →
    unwrap? key wrapped = some secret

theorem PrivateKey.IsGenuine.unwraps {key : PrivateKey} (h : key.IsGenuine) : key.Unwraps :=
  fun _ _ _ => h.unwrap?_of_wrap

end SealedLink.Rsa
