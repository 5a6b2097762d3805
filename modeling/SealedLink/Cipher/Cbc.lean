import SealedLink.Cipher.Aes
import SealedLink.CryptoError

/-!
# Cipher block chaining

AES in CBC mode with padding: every plaintext is filled up to whole blocks by bytes that tell how
many of them there are, at least one and at most a block.

## Main definitions

* `Padding.add`, `Padding.remove?` — padding to whole blocks
* `Cbc.chain`, `Cbc.unchain` — the mode on blocks
* `Cbc.encrypt`, `Cbc.decrypt` — the mode on byte strings
-/

namespace SealedLink

namespace Padding

/-- A byte string filled up to whole blocks. -/
def add (b : Bytes) : Bytes :=
  let count := 16 - b.length % 16
  b ++ List.replicate count (UInt8.ofNat count)

/-- The byte string without its padding, nothing if it does not end in padding. -/
def remove? (b : Bytes) : Option Bytes :=
  match b.getLast? with
  | none => none
  | some last =>
    let count := last.toNat
    let kept := b.length - count
    if 1 ≤ count ∧ count ≤ 16 ∧ count ≤ b.length ∧ (b.drop kept).all (· == last) then
      some (b.take kept)
    else none

end Padding

namespace Cbc

/-- The length of a block and of an initial vector. -/
def blockSize : Nat := 16

/-- The encryption of blocks, each combined with the encryption of the one before it. -/
def chain (encrypt : Block → Block) : (previous : Block) → List Block → List Block
  | _, [] => []
  | previous, x :: xs =>
    let y := encrypt (x.xor previous)
    y :: chain encrypt y xs

/-- The blocks with a given encryption. -/
def unchain (decrypt : Block → Block) : (previous : Block) → List Block → List Block
  | _, [] => []
  | previous, y :: ys => (decrypt y).xor previous :: unchain decrypt y ys

/-- The initial vector as a block; it must have that length. -/
def vector (iv : Bytes) : Except CryptoError Block :=
  if iv.length = blockSize then .ok (Block.ofBytes iv)
  else .error (.malformed s!"IV must be {blockSize} bytes, got {iv.length}")

/-- The round keys of a key; it must have one of the lengths of AES. -/
def schedule (key : Bytes) : Except CryptoError Aes.KeySchedule :=
  match Aes.KeySchedule.ofKey? key with
  | some keys => .ok keys
  | none => .error (.invalidKeyLength 32 key.length)

/-- The encryption of a byte string. -/
def encrypt (key iv plaintext : Bytes) : Except CryptoError Bytes := do
  let iv ← vector iv
  let keys ← schedule key
  return Block.bytes (chain keys.encrypt iv (Block.list (Padding.add plaintext)))

/-- The byte string with a given encryption. -/
def decrypt (key iv ciphertext : Bytes) : Except CryptoError Bytes := do
  let iv ← vector iv
  if ciphertext = [] ∨ ciphertext.length % blockSize ≠ 0 then
    throw (.malformed
      s!"ciphertext length {ciphertext.length} is not a positive multiple of {blockSize}")
  let keys ← schedule key
  match Padding.remove? (Block.bytes (unchain keys.decrypt iv (Block.list ciphertext))) with
  | some plaintext => return plaintext
  | none => throw (.malformed "invalid padding")

end Cbc

end SealedLink
