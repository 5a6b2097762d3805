import SealedLink.Envelope.Legacy
import SealedLink.Proofs.Cipher.Cbc
import SealedLink.Proofs.Comparison
import SealedLink.Proofs.Envelope.Format

/-!
# Legacy envelopes are opened again

Writer and reader derive the same keys from the key and the nonce. The code of an envelope is the
one of its ciphertext, and the ciphertext is the only one of its plaintext.

## Main results

* `LegacyEnvelope.encrypt_eq_ok_iff`, `LegacyEnvelope.reveal_eq_ok_iff` — when writer and reader
  succeed, and with what
* `LegacyEnvelope.reveal_iff_encrypt` — parts decrypt to a plaintext exactly if it encrypts to them
* `LegacyEnvelope.mac_eq_of_reveal` — a ciphertext is accepted with one code only
* `LegacyEnvelope.exists_encrypt` — every plaintext has an envelope
-/

namespace SealedLink.LegacyEnvelope

variable {key plaintext ciphertext envelope : Bytes} {nonce : Octets 16} {mac : Octets 32}

theorem checkKey_eq_ok_iff {u : Unit} : checkKey key = .ok u ↔ minKeyLength ≤ key.length := by
  unfold checkKey
  split <;> simp <;> omega

theorem encrypt_eq_ok_iff :
    encrypt plaintext key nonce = .ok envelope ↔
      minKeyLength ≤ key.length ∧ ∃ ciphertext,
        Cbc.encrypt (Keys.derive key nonce).cipherKey.toBytes (Keys.derive key nonce).vector
          plaintext = .ok ciphertext ∧
        (Envelope.legacy (hmac (Keys.derive key nonce).macKey.toBytes ciphertext) nonce
          ciphertext).encode = envelope := by
  simp only [encrypt, bind_eq_ok_iff, checkKey_eq_ok_iff, exists_const, pure, Except.pure,
    Except.ok.injEq]

theorem reveal_of_lt (h : key.length < 32) :
    reveal key mac nonce ciphertext = .error (.invalidKeyLength 32 key.length) := by
  have refused : checkKey key = .error (.invalidKeyLength 32 key.length) := if_pos h
  rw [reveal, refused]
  rfl

/-- The code decides whether the cipher is used at all. -/
theorem reveal_of_le (h : 32 ≤ key.length) :
    reveal key mac nonce ciphertext =
      if mac = hmac (Keys.derive key nonce).macKey.toBytes ciphertext then
        Cbc.decrypt (Keys.derive key nonce).cipherKey.toBytes (Keys.derive key nonce).vector
          ciphertext
      else .error (.authenticationFailed "MAC mismatch") := by
  have admitted : checkKey key = .ok () := checkKey_eq_ok_iff.mpr h
  have compared := boundedEq_of_le
    (Nat.le_of_eq (hmac (Keys.derive key nonce).macKey.toBytes ciphertext).length_toBytes)
    (Nat.le_of_eq mac.length_toBytes)
  rw [reveal, admitted]
  simp only [compared, bind, Except.bind]
  by_cases same : mac = hmac (Keys.derive key nonce).macKey.toBytes ciphertext
  · simp [same]
  · have other : (hmac (Keys.derive key nonce).macKey.toBytes ciphertext).toBytes ≠ mac.toBytes :=
      fun bytes => same (Octets.ext bytes.symm)
    simp [same, other, throw, throwThe, MonadExceptOf.throw]

theorem reveal_eq_ok_iff :
    reveal key mac nonce ciphertext = .ok plaintext ↔
      minKeyLength ≤ key.length ∧ mac = hmac (Keys.derive key nonce).macKey.toBytes ciphertext ∧
        Cbc.decrypt (Keys.derive key nonce).cipherKey.toBytes (Keys.derive key nonce).vector
          ciphertext = .ok plaintext := by
  by_cases admitted : minKeyLength ≤ key.length
  · rw [reveal_of_le admitted, and_iff_right admitted]
    by_cases same : mac = hmac (Keys.derive key nonce).macKey.toBytes ciphertext
    · rw [if_pos same, and_iff_right same]
    · rw [if_neg same]
      exact iff_of_false nofun fun h => same h.1
  · rw [reveal_of_lt (Nat.not_le.mp admitted)]
    exact iff_of_false nofun fun h => admitted h.1

/-- Parts decrypt to a plaintext exactly if the plaintext encrypts to them: the code is computed from
the ciphertext, and the ciphertext is the only one of its plaintext. -/
theorem reveal_iff_encrypt :
    reveal key mac nonce ciphertext = .ok plaintext ↔
      encrypt plaintext key nonce = .ok (Envelope.legacy mac nonce ciphertext).encode := by
  rw [reveal_eq_ok_iff, encrypt_eq_ok_iff]
  refine and_congr_right fun _ => ?_
  constructor
  · rintro ⟨rfl, decrypted⟩
    exact ⟨ciphertext, Cbc.decrypt_eq_ok_iff_encrypt.mp decrypted, rfl⟩
  · rintro ⟨_, encrypted, same⟩
    have parts := Envelope.parse_eq_ok_iff.mpr same
    rw [Envelope.parse_encode] at parts
    cases parts
    exact ⟨rfl, Cbc.decrypt_eq_ok_iff_encrypt.mpr encrypted⟩

theorem length_vector (key : Bytes) (nonce : Octets 16) :
    (Keys.derive key nonce).vector.length = Cbc.blockSize := by
  rw [Keys.derive, List.length_take, Octets.length_toBytes]
  rfl

/-- Every plaintext has an envelope under every key that is long enough. -/
theorem exists_encrypt (h : minKeyLength ≤ key.length) (plaintext : Bytes) (nonce : Octets 16) :
    ∃ envelope, encrypt plaintext key nonce = .ok envelope := by
  have admitted : (Keys.derive key nonce).cipherKey.toBytes.length = 32 :=
    Octets.length_toBytes _
  obtain ⟨ciphertext, encrypted⟩ :=
    Cbc.exists_encrypt (length_vector key nonce) (.inr (.inr admitted)) plaintext
  exact ⟨_, encrypt_eq_ok_iff.mpr ⟨h, ciphertext, encrypted, rfl⟩⟩

/-- A ciphertext is accepted with one code only, which the key and the nonce determine. -/
theorem mac_eq_of_reveal {mac' : Octets 32} {plaintext' : Bytes}
    (h : reveal key mac nonce ciphertext = .ok plaintext)
    (h' : reveal key mac' nonce ciphertext = .ok plaintext') : mac = mac' := by
  obtain ⟨-, code, -⟩ := reveal_eq_ok_iff.mp h
  obtain ⟨-, code', -⟩ := reveal_eq_ok_iff.mp h'
  rw [code, code']

end SealedLink.LegacyEnvelope
