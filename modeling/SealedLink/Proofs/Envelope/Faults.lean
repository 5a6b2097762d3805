import SealedLink.Proofs.Envelope.Legacy
import SealedLink.Proofs.Envelope.Modern

/-!
# Why an envelope is refused

Under a key of thirty-two bytes an envelope is refused for its form, its format, or its code. The
checks of key lengths and of the bound of the comparison, which other callers may fail, cannot fail
there.

## Main definitions

* `Envelope.IsFault` — the errors that an envelope can cause by itself

## Main results

* `Envelope.isFault_of_decrypt` — under a key of thirty-two bytes only the envelope is at fault
-/

namespace SealedLink

namespace Envelope

/-- The errors that an envelope can cause by itself, whatever else its reader is given. -/
inductive IsFault : CryptoError → Prop
  | malformed (reason : String) : IsFault (.malformed reason)
  | unsupportedCipher (expected actual : UInt8) : IsFault (.unsupportedCipher expected actual)
  | authenticationFailed (reason : String) : IsFault (.authenticationFailed reason)

variable {key b : Bytes} {e : CryptoError}

theorem isFault_of_parse (h : parse b = .error e) : IsFault e := by
  unfold parse at h
  split at h
  · cases h
    exact .malformed _
  · split at h
    · split at h
      · cases h
      · cases h
        exact .malformed _
    · split at h
      · cases h
      · cases h
        exact .malformed _
    · cases h
      exact .unsupportedCipher _ _

theorem isFault_of_modernReveal {nonce : Octets 12} {tag : Octets 16} (size : key.length = 32)
    (h : ModernEnvelope.reveal key nonce tag b = .error e) : IsFault e := by
  obtain ⟨f, block⟩ := ModernEnvelope.exists_cipher size
  unfold ModernEnvelope.reveal at h
  simp only [block, bind, Except.bind] at h
  split at h
  · cases h
    exact .authenticationFailed _
  · split at h
    · cases h
    · cases h
      exact .authenticationFailed _

theorem isFault_of_legacyReveal {mac : Octets 32} {nonce : Octets 16} (size : key.length = 32)
    (h : LegacyEnvelope.reveal key mac nonce b = .error e) : IsFault e := by
  have checked : LegacyEnvelope.checkKey key = .ok () :=
    LegacyEnvelope.checkKey_eq_ok_iff.mpr (Nat.le_of_eq size.symm)
  have compared := boundedEq_of_le
    (Nat.le_of_eq (hmac (LegacyEnvelope.Keys.derive key nonce).macKey.toBytes b).length_toBytes)
    (Nat.le_of_eq mac.length_toBytes)
  unfold LegacyEnvelope.reveal at h
  simp only [checked, compared, bind, Except.bind] at h
  split at h
  -- the derived keys have the lengths that the cipher admits
  · obtain ⟨reason, rfl⟩ := Cbc.decrypt_eq_error_of_admitted
      (LegacyEnvelope.length_vector key nonce) (.inr (.inr (Octets.length_toBytes _))) h
    exact .malformed reason
  · cases h
    exact .authenticationFailed _

/-- Under a key of thirty-two bytes nothing but the envelope is at fault. -/
theorem isFault_of_decrypt (size : key.length = 32) (h : decrypt b key = .error e) : IsFault e := by
  unfold decrypt at h
  cases parsed : parse b with
  | error e' =>
    rw [parsed] at h
    cases h
    exact isFault_of_parse parsed
  | ok parts =>
    rw [parsed] at h
    cases parts with
    | modern nonce tag ciphertext => exact isFault_of_modernReveal size h
    | legacy mac nonce ciphertext => exact isFault_of_legacyReveal size h

end Envelope

end SealedLink
