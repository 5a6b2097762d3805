import SealedLink.LaunchError
import SealedLink.Rsa.Signature

/-!
# Signed payloads

A payload with the RSA signature of its sender. As one byte string it is the length of the
signature, the signature, and the payload.

## Main definitions

* `SignedPayload` — a payload and a signature
* `SignedPayload.sign`, `SignedPayload.verify` — signing and the check of the signature
* `SignedPayload.pack`, `SignedPayload.unpack` — one byte string for both
-/

namespace SealedLink

/-- A payload and a signature. -/
structure SignedPayload where
  /-- What is signed. -/
  payload : Bytes
  /-- The signature. -/
  signature : Bytes
  deriving DecidableEq

namespace SignedPayload

/-! ### Signing -/

/-- A payload signed by the holder of a private key. -/
def sign (payload : Bytes) (key : Rsa.PrivateKey) : Except LaunchError SignedPayload :=
  match Rsa.sign key payload with
  | .ok signature => .ok ⟨payload, signature⟩
  | .error fault => .error (.invalidInput "sender private key" fault.message)

/-- The signature was made for the payload with the private part of the key. -/
def verify (m : SignedPayload) (key : Rsa.PublicKey) : Except LaunchError Unit :=
  if Rsa.verify key m.payload m.signature then .ok ()
  else .error (.authenticationFailed "RSA signature mismatch")

/-! ### Packing -/

/-- The greatest length of a signature. -/
def maxSignatureLength : Nat := 1024

/-- The number of bytes that hold the length of the signature. -/
def lengthSize : Nat := 4

/-- One byte string for payload and signature. -/
def pack (m : SignedPayload) : Except LaunchError Bytes :=
  if maxSignatureLength < m.signature.length then
    .error (.signatureLengthExceeded m.signature.length maxSignatureLength)
  else .ok (Bytes.ofNatLE lengthSize m.signature.length ++ (m.signature ++ m.payload))

/-- The payload and the signature in a byte string. -/
def unpack (packed : Bytes) : Except LaunchError SignedPayload :=
  match Octets.split? lengthSize packed with
  | none =>
    .error (.invalidInput "decrypted data" "contains no or insufficient signature length information")
  | some (digits, rest) =>
    let length := Bytes.toNatLE digits.toBytes
    if maxSignatureLength < length then
      .error (.signatureLengthExceeded length maxSignatureLength)
    else if rest.length < length then
      let available := rest.length
      .error (.invalidInput "signature"
        s!"declared signature length {length} exceeds the {available} bytes of signature and payload")
    else .ok ⟨rest.drop length, rest.take length⟩

end SignedPayload

end SealedLink
