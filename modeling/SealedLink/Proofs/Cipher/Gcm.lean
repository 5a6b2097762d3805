import SealedLink.Cipher.Gcm
import SealedLink.Proofs.Bytes

/-!
# Galois/counter mode is inverted

The keystream depends on the length of the text and not on the text, and it is never shorter. So
combining twice gives the text back, under any block function, and the tag is computed from the same
ciphertext on both sides.

## Main results

* `Gcm.crypt_crypt` — combining with the keystream twice changes nothing
* `Gcm.decrypt?_encrypt` — a plaintext is decrypted from its tag and its ciphertext
* `Gcm.decrypt?_eq_some_iff` — nothing else decrypts to it
-/

namespace SealedLink

theorem Block.length_bytes (blocks : List Block) :
    (Block.bytes blocks).length = 16 * blocks.length := by
  induction blocks with
  | nil => rfl
  | cons x blocks ih =>
    change (x.toBytes ++ Block.bytes blocks).length = 16 * (blocks.length + 1)
    rw [List.length_append, ih, Block.length_toBytes]
    omega

namespace Gcm

variable (cipher : Block → Block) (nonce : Octets 12)

theorem le_length_keystream (n : Nat) : n ≤ (keystream cipher nonce n).length := by
  rw [keystream, Block.length_bytes, List.length_map, List.length_range]
  omega

theorem length_crypt (text : Bytes) : (crypt cipher nonce text).length = text.length :=
  Bytes.length_xor (le_length_keystream cipher nonce text.length)

theorem crypt_crypt (text : Bytes) : crypt cipher nonce (crypt cipher nonce text) = text := by
  have length := length_crypt cipher nonce text
  rw [crypt, length, crypt]
  exact Bytes.xor_xor_cancel_right (le_length_keystream cipher nonce text.length)

theorem decrypt?_encrypt (plaintext : Bytes) :
    decrypt? cipher nonce (encrypt cipher nonce plaintext).1 (encrypt cipher nonce plaintext).2 =
      some plaintext := by
  rw [decrypt?, encrypt, if_pos rfl, crypt_crypt]

/-- The tag is computed from the ciphertext, so a ciphertext with its tag decrypts to one plaintext,
and that plaintext encrypts to both. -/
theorem decrypt?_eq_some_iff {t : Octets 16} {ciphertext plaintext : Bytes} :
    decrypt? cipher nonce t ciphertext = some plaintext ↔
      encrypt cipher nonce plaintext = (t, ciphertext) := by
  constructor
  · intro h
    unfold decrypt? at h
    split at h
    · rename_i matching
      cases h
      rw [encrypt, crypt_crypt, matching]
    · cases h
  · intro h
    have opened := decrypt?_encrypt cipher nonce plaintext
    rw [h] at opened
    exact opened

end Gcm

end SealedLink
