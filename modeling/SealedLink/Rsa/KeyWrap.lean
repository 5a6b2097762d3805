import SealedLink.Hash.Sha1
import SealedLink.Rsa.Key

/-!
# RSA key wrapping

A short secret is encrypted to the holder of a private key by OAEP with SHA-1 and an empty label:
the secret and a random seed mask each other before the public exponent is applied.

## Main definitions

* `Rsa.mask` — bytes stretched from a seed
* `Rsa.encodeSecret?`, `Rsa.decodeSecret?` — a secret as long as the modulus, and back
* `Rsa.wrap`, `Rsa.unwrap?` — encryption and decryption of a secret
-/

namespace SealedLink.Rsa

/-- The length of a digest and of a seed. -/
def seedSize : Nat := 20

/-- `length` bytes stretched from a seed. -/
def mask (seed : Bytes) (length : Nat) : Bytes :=
  ((List.range ((length + seedSize - 1) / seedSize)).flatMap fun i =>
    (Sha1.hash (seed ++ Bytes.ofNatBE 4 i)).toBytes).take length

/-- The digest of the empty label. -/
def labelDigest : Bytes := (Sha1.hash []).toBytes

/-- A secret masked with a seed, `size` bytes; nothing if they are too few. -/
def encodeSecret? (size : Nat) (seed : Octets 20) (secret : Bytes) : Option Bytes :=
  if size < secret.length + 2 * seedSize + 2 then none
  else
    let zeros := List.replicate (size - secret.length - 2 * seedSize - 2) 0x00
    let block := labelDigest ++ zeros ++ 0x01 :: secret
    let maskedBlock := Bytes.xor block (mask seed.toBytes block.length)
    let maskedSeed := Bytes.xor seed.toBytes (mask maskedBlock seedSize)
    some (0x00 :: (maskedSeed ++ maskedBlock))

/-- The secret after the zeros and the one that precede it. -/
def dropZeros? : Bytes → Option Bytes
  | 0x00 :: rest => dropZeros? rest
  | 0x01 :: secret => some secret
  | _ => none

/-- The secret in masked bytes, if they have that form. -/
def decodeSecret? : Bytes → Option Bytes
  | 0x00 :: rest =>
    let maskedBlock := rest.drop seedSize
    let seed := Bytes.xor (rest.take seedSize) (mask maskedBlock seedSize)
    let block := Bytes.xor maskedBlock (mask seed maskedBlock.length)
    if block.take seedSize = labelDigest then dropZeros? (block.drop seedSize) else none
  | _ => none

/-- A secret encrypted to the holder of the private key. -/
def wrap (key : PublicKey) (seed : Octets 20) (secret : Bytes) : Except Fault Bytes :=
  match encodeSecret? key.size seed secret with
  | some encoded => .ok (Bytes.ofNatBE key.size (key.power (Bytes.toNatBE encoded)))
  | none => .error .messageTooLong

/-- The secret in its encryption, if it is one. -/
def unwrap? (key : PrivateKey) (wrapped : Bytes) : Option Bytes :=
  let size := key.publicKey.size
  let y := Bytes.toNatBE wrapped
  if wrapped.length = size ∧ 2 * seedSize + 2 ≤ size ∧ y < key.publicKey.modulus then
    (key.root? y).bind fun x => decodeSecret? (Bytes.ofNatBE size x)
  else none

end SealedLink.Rsa
