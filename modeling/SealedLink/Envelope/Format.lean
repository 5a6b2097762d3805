import SealedLink.CryptoError
import SealedLink.Bytes

/-!
# Envelopes

An envelope is an encrypted byte string together with what its reader needs besides the key. Its
first byte tells the format: the legacy format authenticates a block-chained ciphertext with a
separate code, the modern one is an AEAD.

## Main definitions

* `FormatVersion` — the two formats and their bytes
* `Envelope` — the parts of an envelope
* `Envelope.encode`, `Envelope.parse` — envelopes as byte strings
-/

namespace SealedLink

/-- The formats of an envelope. -/
inductive FormatVersion where
  /-- Block chaining with a separate authentication code. -/
  | legacy
  /-- Authenticated encryption. -/
  | modern
  deriving DecidableEq

namespace FormatVersion

/-- The first byte of an envelope of this format. -/
def toByte : FormatVersion → UInt8
  | legacy => 1
  | modern => 2

/-- The format that a first byte announces. -/
def ofByte? (b : UInt8) : Option FormatVersion :=
  if b = 1 then some legacy else if b = 2 then some modern else none

/-- The name of a format. -/
def name : FormatVersion → String
  | legacy => "Legacy"
  | modern => "Modern"

/-- The number of bytes before the ciphertext. -/
def headerLength : FormatVersion → Nat
  | legacy => 1 + 32 + 16
  | modern => 1 + 12 + 16

end FormatVersion

/-- The parts of an envelope. -/
inductive Envelope where
  /-- The authentication code of the ciphertext, the nonce its keys come from, and the ciphertext.
  -/
  | legacy (mac : Octets 32) (nonce : Octets 16) (ciphertext : Bytes)
  /-- The nonce, the tag, and the ciphertext. -/
  | modern (nonce : Octets 12) (tag : Octets 16) (ciphertext : Bytes)
  deriving DecidableEq

namespace Envelope

/-- The format of an envelope. -/
def version : Envelope → FormatVersion
  | legacy .. => .legacy
  | modern .. => .modern

/-- The byte string of an envelope. -/
def encode : Envelope → Bytes
  | legacy mac nonce ciphertext =>
    FormatVersion.legacy.toByte :: (mac.toBytes ++ (nonce.toBytes ++ ciphertext))
  | modern nonce tag ciphertext =>
    FormatVersion.modern.toByte :: (nonce.toBytes ++ (tag.toBytes ++ ciphertext))

/-- The error for an envelope that ends before its ciphertext begins. -/
def truncated (version : FormatVersion) (length : Nat) : CryptoError :=
  .malformed s!"{version.name} envelope needs at least {version.headerLength} bytes, got {length}"

/-- Two fields of fixed sizes and what follows them. -/
def splitHeader? (m n : Nat) (b : Bytes) : Option (Octets m × Octets n × Bytes) := do
  let (x, rest) ← Octets.split? m b
  let (y, rest) ← Octets.split? n rest
  return (x, y, rest)

/-- The envelope of a byte string. -/
def parse : Bytes → Except CryptoError Envelope
  | [] => .error (.malformed "empty envelope")
  | first :: body =>
    match FormatVersion.ofByte? first with
    | some .modern =>
      match splitHeader? 12 16 body with
      | some (nonce, tag, ciphertext) => .ok (modern nonce tag ciphertext)
      | none => .error (truncated .modern (body.length + 1))
    | some .legacy =>
      match splitHeader? 32 16 body with
      | some (mac, nonce, ciphertext) => .ok (legacy mac nonce ciphertext)
      | none => .error (truncated .legacy (body.length + 1))
    | none => .error (.unsupportedCipher FormatVersion.modern.toByte first)

end Envelope

end SealedLink
