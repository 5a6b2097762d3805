import SealedLink.Envelope.Decryption
import SealedLink.Proofs.Cipher.Aes
import SealedLink.Proofs.Cipher.Gcm
import SealedLink.Proofs.Envelope.Format
import SealedLink.Proofs.Failure

/-!
# Modern envelopes are opened again

Writer and reader get the same block cipher from the same key, so the tag of a written envelope is
the one that the reader computes. A ciphertext is as long as its plaintext, and what may be written
may be read.

## Main results

* `ModernEnvelope.encrypt_eq_ok_iff`, `ModernEnvelope.reveal_eq_ok_iff` — when writer and reader
  succeed, and with what
* `ModernEnvelope.reveal_iff_encrypt` — parts decrypt to a plaintext exactly if it encrypts to them
* `ModernEnvelope.tag_eq_of_reveal` — a ciphertext is accepted with one tag only
* `ModernEnvelope.exists_encrypt` — a plaintext within the limit has an envelope that decrypts to it
-/

namespace SealedLink.ModernEnvelope

theorem exists_cipher {key : Bytes} (h : key.length = keyLength) : ∃ f, cipher key = .ok f := by
  have admitted : key.length = 16 ∨ key.length = 24 ∨ key.length = 32 := .inr (.inr h)
  obtain ⟨keys, schedule⟩ := Aes.KeySchedule.exists_ofKey? admitted
  refine ⟨keys.encrypt, ?_⟩
  rw [cipher, if_pos h, schedule]

variable {key plaintext ciphertext envelope : Bytes} {nonce : Octets 12} {tag : Octets 16}

theorem length_of_cipher {f : Block → Block} (h : cipher key = .ok f) : key.length = keyLength := by
  unfold cipher at h
  split at h
  · assumption
  · cases h

theorem encrypt_eq_ok_iff :
    encrypt plaintext key nonce = .ok envelope ↔
      ∃ f, cipher key = .ok f ∧ plaintext.length ≤ Gcm.maxPlaintextLength ∧
        (Envelope.modern nonce (Gcm.encrypt f nonce plaintext).1
          (Gcm.encrypt f nonce plaintext).2).encode = envelope := by
  simp only [encrypt, bind_eq_ok_iff, ite_throw_bind_eq_ok_iff, Nat.not_lt, pure, Except.pure,
    Except.ok.injEq]

theorem reveal_eq_ok_iff :
    reveal key nonce tag ciphertext = .ok plaintext ↔
      ∃ f, cipher key = .ok f ∧ ciphertext.length ≤ Gcm.maxCiphertextLength ∧
        Gcm.encrypt f nonce plaintext = (tag, ciphertext) := by
  simp only [reveal, bind_eq_ok_iff, ite_throw_bind_eq_ok_iff, Nat.not_lt,
    ← Gcm.decrypt?_eq_some_iff]
  refine exists_congr fun f => and_congr_right fun _ => and_congr_right fun _ => ?_
  cases Gcm.decrypt? f nonce tag ciphertext <;>
    simp [pure, Except.pure, throw, throwThe, MonadExceptOf.throw]

theorem encrypt_eq_encode_iff :
    encrypt plaintext key nonce = .ok (Envelope.modern nonce tag ciphertext).encode ↔
      ∃ f, cipher key = .ok f ∧ plaintext.length ≤ Gcm.maxPlaintextLength ∧
        Gcm.encrypt f nonce plaintext = (tag, ciphertext) := by
  rw [encrypt_eq_ok_iff]
  refine exists_congr fun f => and_congr_right fun _ => and_congr_right fun _ => ?_
  constructor
  · intro same
    -- envelopes with the same bytes have the same parts
    have parts := Envelope.parse_eq_ok_iff.mpr same
    rw [Envelope.parse_encode] at parts
    cases parts
    rfl
  · intro same
    rw [same]

theorem length_encrypt (f : Block → Block) (nonce : Octets 12) (plaintext : Bytes) :
    (Gcm.encrypt f nonce plaintext).2.length = plaintext.length :=
  Gcm.length_crypt f nonce plaintext

/-- An envelope is as long as its header and its plaintext. -/
theorem length_of_encrypt (h : encrypt plaintext key nonce = .ok envelope) :
    envelope.length = 29 + plaintext.length := by
  obtain ⟨f, -, -, encoded⟩ := encrypt_eq_ok_iff.mp h
  rw [← encoded, Envelope.encode, List.length_cons, List.length_append, List.length_append,
    Octets.length_toBytes, Octets.length_toBytes, length_encrypt]
  omega

/-- What the writer produces is decrypted. -/
theorem reveal_of_encrypt
    (h : encrypt plaintext key nonce = .ok (Envelope.modern nonce tag ciphertext).encode) :
    reveal key nonce tag ciphertext = .ok plaintext := by
  obtain ⟨f, block, fits, same⟩ := encrypt_eq_encode_iff.mp h
  refine reveal_eq_ok_iff.mpr ⟨f, block, ?_, same⟩
  have length := length_encrypt f nonce plaintext
  rw [same] at length
  rw [length]
  exact Nat.le_trans fits (Nat.le_add_right _ _)

/-- Parts with a ciphertext as long as a plaintext may be decrypt to a plaintext exactly if the
plaintext encrypts to them. -/
theorem reveal_iff_encrypt (short : ciphertext.length ≤ Gcm.maxPlaintextLength) :
    reveal key nonce tag ciphertext = .ok plaintext ↔
      encrypt plaintext key nonce = .ok (Envelope.modern nonce tag ciphertext).encode := by
  constructor
  · intro revealed
    obtain ⟨f, block, -, same⟩ := reveal_eq_ok_iff.mp revealed
    refine encrypt_eq_encode_iff.mpr ⟨f, block, ?_, same⟩
    have length := length_encrypt f nonce plaintext
    rw [same] at length
    rw [← length]
    exact short
  · exact reveal_of_encrypt

/-- A ciphertext is accepted with one tag only, which the key and the nonce determine. -/
theorem tag_eq_of_reveal {tag' : Octets 16} {plaintext' : Bytes}
    (h : reveal key nonce tag ciphertext = .ok plaintext)
    (h' : reveal key nonce tag' ciphertext = .ok plaintext') : tag = tag' := by
  obtain ⟨f, block, -, same⟩ := reveal_eq_ok_iff.mp h
  obtain ⟨f', block', -, same'⟩ := reveal_eq_ok_iff.mp h'
  have functions : f = f' := Except.ok.inj (block.symm.trans block')
  subst functions
  obtain ⟨tagged, hidden⟩ := Prod.mk.inj same
  obtain ⟨tagged', hidden'⟩ := Prod.mk.inj same'
  rw [← tagged, ← tagged', hidden, hidden']

/-- A plaintext within the limit has an envelope under every key of the right length, and the
envelope decrypts to it under that key. -/
theorem exists_encrypt (h : key.length = keyLength)
    (fits : plaintext.length ≤ Gcm.maxPlaintextLength) (nonce : Octets 12) :
    ∃ envelope, encrypt plaintext key nonce = .ok envelope ∧
      Envelope.decrypt envelope key = .ok plaintext := by
  obtain ⟨f, block⟩ := exists_cipher h
  have produced : encrypt plaintext key nonce =
      .ok (Envelope.modern nonce (Gcm.encrypt f nonce plaintext).1
        (Gcm.encrypt f nonce plaintext).2).encode :=
    encrypt_eq_ok_iff.mpr ⟨f, block, fits, rfl⟩
  refine ⟨_, produced, ?_⟩
  rw [Envelope.decrypt, Envelope.parse_encode]
  exact reveal_of_encrypt produced

end SealedLink.ModernEnvelope
