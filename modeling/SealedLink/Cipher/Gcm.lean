import SealedLink.Cipher.Aes

/-!
# Galois/counter mode

AES-256 in GCM with a twelve-byte nonce and no associated data. The text is combined with a
keystream, and the tag is a hash of the ciphertext in the field of 2¹²⁸ elements, masked by one more
keystream block.

## Main definitions

* `Gcm.keystream` — the bytes the text is combined with
* `Gcm.multiply`, `Gcm.hash` — the field product and the hash of the ciphertext
* `Gcm.encrypt`, `Gcm.decrypt?` — encryption with a tag and decryption under a check of the tag
-/

namespace SealedLink.Gcm

/-- The longest plaintext, 2³⁶ bytes. -/
def maxPlaintextLength : Nat := 0x1000000000

/-- The longest ciphertext that is looked at, a tag longer than the longest plaintext. -/
def maxCiphertextLength : Nat := maxPlaintextLength + 16

/-! ### Keystream -/

/-- The block of a nonce and a counter of four bytes. -/
def counterBlock (nonce : Octets 12) (counter : Nat) : Block :=
  Block.ofBytes (nonce.toBytes ++ Bytes.ofNatBE 4 counter)

/-- At least `length` bytes of keystream. The first counter is kept for the tag. -/
def keystream (cipher : Block → Block) (nonce : Octets 12) (length : Nat) : Bytes :=
  Block.bytes ((List.range ((length + 15) / 16)).map fun i => cipher (counterBlock nonce (i + 2)))

/-- A text combined with the keystream. -/
def crypt (cipher : Block → Block) (nonce : Octets 12) (text : Bytes) : Bytes :=
  Bytes.xor text (keystream cipher nonce text.length)

/-! ### Tag -/

/-- A block of bytes as a field element, missing bytes being zero. The first bit of the first byte
is the constant coefficient. -/
def element (b : Bytes) : BitVec 128 :=
  BitVec.ofNat 128 (Bytes.toNatBE (b ++ List.replicate (16 - b.length) 0))

/-- The product of two field elements. -/
def multiply (x y : BitVec 128) : BitVec 128 :=
  let step := fun (p : BitVec 128 × BitVec 128) i =>
    let (sum, power) := p
    (if x.getMsbD i then sum ^^^ power else sum,
      if power.getLsbD 0 then (power >>> 1) ^^^ (0xe1#128 <<< 120) else power >>> 1)
  ((List.range 128).foldl step (0#128, y)).1

/-- The hash of a ciphertext under a field element: a polynomial in it whose coefficients are the
blocks of the ciphertext and its length in bits. -/
def hash (key : BitVec 128) (ciphertext : Bytes) : BitVec 128 :=
  let lengths := BitVec.ofNat 128 (8 * ciphertext.length)
  let step := fun sum block => multiply (sum ^^^ block) key
  ((Bytes.chunks 16 ciphertext).map element ++ [lengths]).foldl step 0#128

/-- The tag of a ciphertext. -/
def tag (cipher : Block → Block) (nonce : Octets 12) (ciphertext : Bytes) : Octets 16 :=
  let key := element (cipher Block.zero).toBytes
  let mask := element (cipher (counterBlock nonce 1)).toBytes
  ⟨Bytes.ofNatBE 16 (hash key ciphertext ^^^ mask).toNat, by simp⟩

/-! ### Encryption -/

/-- The tag and the encryption of a plaintext. -/
def encrypt (cipher : Block → Block) (nonce : Octets 12) (plaintext : Bytes) : Octets 16 × Bytes :=
  let ciphertext := crypt cipher nonce plaintext
  (tag cipher nonce ciphertext, ciphertext)

/-- The plaintext of a ciphertext that comes with its tag. -/
def decrypt? (cipher : Block → Block) (nonce : Octets 12) (t : Octets 16) (ciphertext : Bytes) :
    Option Bytes :=
  if t = tag cipher nonce ciphertext then some (crypt cipher nonce ciphertext) else none

end SealedLink.Gcm
