import SealedLink.Envelope.Legacy
import SealedLink.Envelope.Modern

/-!
# Decryption of envelopes

A reader either takes both formats or insists on one; an envelope of the other is then refused by
its version, whatever the key.

## Main definitions

* `Envelope.decrypt` — the plaintext of an envelope of either format
* `ModernEnvelope.decrypt`, `LegacyEnvelope.decrypt` — the plaintext of an envelope of one format
-/

namespace SealedLink

/-- The plaintext of an envelope of either format. -/
def Envelope.decrypt (envelope key : Bytes) : Except CryptoError Bytes := do
  match ← Envelope.parse envelope with
  | .modern nonce tag ciphertext => ModernEnvelope.reveal key nonce tag ciphertext
  | .legacy mac nonce ciphertext => LegacyEnvelope.reveal key mac nonce ciphertext

/-- The plaintext of a modern envelope. -/
def ModernEnvelope.decrypt (envelope key : Bytes) : Except CryptoError Bytes := do
  match ← Envelope.parse envelope with
  | .modern nonce tag ciphertext => ModernEnvelope.reveal key nonce tag ciphertext
  | .legacy .. =>
    throw (.unsupportedCipher FormatVersion.modern.toByte FormatVersion.legacy.toByte)

/-- The plaintext of a legacy envelope. -/
def LegacyEnvelope.decrypt (envelope key : Bytes) : Except CryptoError Bytes := do
  match ← Envelope.parse envelope with
  | .legacy mac nonce ciphertext => LegacyEnvelope.reveal key mac nonce ciphertext
  | .modern .. =>
    throw (.unsupportedCipher FormatVersion.legacy.toByte FormatVersion.modern.toByte)

end SealedLink
