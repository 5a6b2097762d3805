import SealedLink.Bytes

/-!
# Padding and words of the SHA family

SHA-1 and SHA-256 read a message as blocks of 64 bytes. The last block ends with the message length
in bits, and a block is sixteen words of four bytes, most significant byte first.

## Main definitions

* `Hash.pad` — the message completed to whole blocks
* `Hash.words` — the words of a block
* `Hash.wordBytes` — the four bytes of a word
-/

namespace SealedLink.Hash

/-- The number of zero bytes between the closing one bit and the length. -/
def paddingZeros (n : Nat) : Nat := (119 - n % 64) % 64

/-- The message, a one bit, zeros, and the length of the message in bits as eight bytes. -/
def pad (message : Bytes) : Bytes :=
  message ++ 0x80 :: List.replicate (paddingZeros message.length) 0 ++
    Bytes.ofNatBE 8 (8 * message.length)

/-- The words of a block. -/
def words (block : Bytes) : List UInt32 :=
  (Bytes.chunks 4 block).map fun b => UInt32.ofNat (Bytes.toNatBE b)

/-- The four bytes of a word, most significant first. -/
def wordBytes (w : UInt32) : Bytes :=
  [(w >>> 24).toUInt8, (w >>> 16).toUInt8, (w >>> 8).toUInt8, w.toUInt8]

/-- The word turned left by `n` bits. -/
def rotateLeft (w n : UInt32) : UInt32 := w <<< n ||| w >>> (32 - n)

/-- The word turned right by `n` bits. -/
def rotateRight (w n : UInt32) : UInt32 := w >>> n ||| w <<< (32 - n)

end SealedLink.Hash
