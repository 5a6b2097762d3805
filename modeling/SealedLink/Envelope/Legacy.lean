import SealedLink.Cipher.Cbc
import SealedLink.Comparison
import SealedLink.Envelope.Format
import SealedLink.KeyDerivation

/-!
# Legacy envelopes

AES-256-CBC, then an authentication code of the ciphertext. Cipher key, initial vector and
authentication key are derived from the key and the nonce, each for its own purpose. A ciphertext is
authenticated before it is decrypted, so padding is never examined in a forged envelope.

## Main definitions

* `LegacyEnvelope.Keys` — what is derived from a key and a nonce
* `LegacyEnvelope.encrypt` — the envelope of a plaintext
* `LegacyEnvelope.reveal` — the plaintext of the parts of an envelope
-/

namespace SealedLink.LegacyEnvelope

open KeyDerivation (Purpose purposeKey)

/-- The least length of a key. -/
def minKeyLength : Nat := 32

/-- A key must have at least thirty-two bytes. -/
def checkKey (key : Bytes) : Except CryptoError Unit :=
  if key.length < minKeyLength then .error (.invalidKeyLength minKeyLength key.length) else .ok ()

/-- What is derived from a key and a nonce. -/
structure Keys where
  /-- The key of the cipher. -/
  cipherKey : Octets 32
  /-- The initial vector. -/
  vector : Bytes
  /-- The key of the authentication code. -/
  macKey : Octets 32

/-- The keys of one envelope. -/
def Keys.derive (key : Bytes) (nonce : Octets 16) : Keys where
  cipherKey := purposeKey key Purpose.envelopeCipher.label nonce.toBytes
  vector := (purposeKey key Purpose.envelopeVector.label nonce.toBytes).toBytes.take Cbc.blockSize
  macKey := purposeKey key Purpose.envelopeMac.label nonce.toBytes

/-- The envelope of a plaintext. -/
def encrypt (plaintext key : Bytes) (nonce : Octets 16) : Except CryptoError Bytes := do
  checkKey key
  let keys := Keys.derive key nonce
  let ciphertext ← Cbc.encrypt keys.cipherKey.toBytes keys.vector plaintext
  return (Envelope.legacy (hmac keys.macKey.toBytes ciphertext) nonce ciphertext).encode

/-- The plaintext of an authentication code, a nonce and a ciphertext. -/
def reveal (key : Bytes) (mac : Octets 32) (nonce : Octets 16) (ciphertext : Bytes) :
    Except CryptoError Bytes := do
  checkKey key
  let keys := Keys.derive key nonce
  let expected := hmac keys.macKey.toBytes ciphertext
  if ← boundedEq expected.toBytes mac.toBytes 32 then
    Cbc.decrypt keys.cipherKey.toBytes keys.vector ciphertext
  else throw (.authenticationFailed "MAC mismatch")

end SealedLink.LegacyEnvelope
