import SealedLink.Cipher.Gcm
import SealedLink.Envelope.Format

/-!
# Modern envelopes

AES-256-GCM under a key of thirty-two bytes and a nonce of twelve.

## Main definitions

* `ModernEnvelope.encrypt` — the envelope of a plaintext
* `ModernEnvelope.reveal` — the plaintext of the parts of an envelope
-/

namespace SealedLink.ModernEnvelope

/-- The length of a key. -/
def keyLength : Nat := 32

/-- The block cipher of a key, which must have the length of a key. -/
def cipher (key : Bytes) : Except CryptoError (Block → Block) :=
  if key.length = keyLength then
    match Aes.KeySchedule.ofKey? key with
    | some keys => .ok keys.encrypt
    | none => .error (.invalidKeyLength keyLength key.length)
  else .error (.invalidKeyLength keyLength key.length)

/-- The envelope of a plaintext. -/
def encrypt (plaintext key : Bytes) (nonce : Octets 12) : Except CryptoError Bytes := do
  let cipher ← cipher key
  if Gcm.maxPlaintextLength < plaintext.length then
    throw (.malformed "plaintext too long for AES-GCM")
  let (tag, ciphertext) := Gcm.encrypt cipher nonce plaintext
  return (Envelope.modern nonce tag ciphertext).encode

/-- The error for a tag that does not match, or for a ciphertext beyond every plaintext. -/
def tagMismatch : CryptoError := .authenticationFailed "AEAD tag mismatch"

/-- The plaintext of a nonce, a tag and a ciphertext. -/
def reveal (key : Bytes) (nonce : Octets 12) (tag : Octets 16) (ciphertext : Bytes) :
    Except CryptoError Bytes := do
  let cipher ← cipher key
  if Gcm.maxCiphertextLength < ciphertext.length then throw tagMismatch
  match Gcm.decrypt? cipher nonce tag ciphertext with
  | some plaintext => return plaintext
  | none => throw tagMismatch

end SealedLink.ModernEnvelope
