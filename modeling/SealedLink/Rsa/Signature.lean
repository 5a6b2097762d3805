import SealedLink.Hash.Sha256
import SealedLink.Rsa.Key

/-!
# RSA signatures

The digest of a message, marked as one of SHA-256, is filled up to the length of the modulus by a
fixed padding, and the private exponent is applied to it. A signature is checked by comparing every
byte.

## Main definitions

* `Rsa.encodeDigest?` — the digest of a message as long as the modulus
* `Rsa.sign`, `Rsa.verify` — signatures and their check
-/

namespace SealedLink.Rsa

/-- The mark of a SHA-256 digest: the encoding of its algorithm and length. -/
def digestMark : Bytes :=
  [0x30, 0x31, 0x30, 0x0d, 0x06, 0x09, 0x60, 0x86, 0x48, 0x01, 0x65, 0x03, 0x04, 0x02, 0x01, 0x05,
    0x00, 0x04, 0x20]

/-- The digest of a message, padded to `size` bytes; nothing if they are too few. -/
def encodeDigest? (size : Nat) (message : Bytes) : Option Bytes :=
  let digest := digestMark ++ (Sha256.hash message).toBytes
  if size < digest.length + 11 then none
  else some ([0x00, 0x01] ++ List.replicate (size - digest.length - 3) 0xff ++ [0x00] ++ digest)

/-- The signature of a message. -/
def sign (key : PrivateKey) (message : Bytes) : Except Fault Bytes :=
  let size := key.publicKey.size
  match encodeDigest? size message with
  | none => .error .messageTooLong
  | some encoded =>
    match key.root? (Bytes.toNatBE encoded) with
    | some x => .ok (Bytes.ofNatBE size x)
    | none => .error .internal

/-- The signature was made for the message with the private part of the key. -/
def verify (key : PublicKey) (message signature : Bytes) : Bool :=
  let x := Bytes.toNatBE signature
  signature.length == key.size && x < key.modulus &&
    encodeDigest? key.size message == some (Bytes.ofNatBE key.size (key.power x))

end SealedLink.Rsa
