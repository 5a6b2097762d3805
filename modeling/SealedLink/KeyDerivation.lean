import SealedLink.CryptoError
import SealedLink.Hash.Hmac
import SealedLink.Text.Utf8

/-!
# Key derivation

HKDF with SHA-256 and no salt. Every key that is derived for a purpose has an information string of
its own, the label of the purpose followed by a nonce, so no two purposes share a key.

## Main definitions

* `KeyDerivation.expandInBytes` — output whose blocks are numbered by a byte that must not overflow
* `KeyDerivation.deriveKey` — a key of a requested length
* `KeyDerivation.Purpose` — what the derived keys are for
* `KeyDerivation.domainInfo` — the information string of a label and a nonce
* `KeyDerivation.purposeKey` — the 32-byte key of a label and a nonce
-/

namespace SealedLink.KeyDerivation

/-! ### HKDF -/

/-- The length of a hash value, and the least length of a derived key. -/
def hashLength : Nat := 32

/-- The greatest length of a derived key: the block counter is one byte. -/
def maxOutputLength : Nat := 255 * hashLength

/-- The pseudorandom key of a secret. -/
def extract (secret : Bytes) : Bytes := (hmac (List.replicate hashLength 0) secret).toBytes

/-- The byte for a number, nothing if it would lose bits. -/
def byte? (n : Nat) : Option UInt8 := if n < UInt8.size then some (UInt8.ofNat n) else none

/-- `count` blocks of output from the one with the given index on, after the block `previous`. Every
block is numbered by a byte, so there is nothing if a number does not fit. -/
def blocksInBytes (key info : Bytes) : (previous : Bytes) → (index count : Nat) → Option Bytes
  | _, _, 0 => some []
  | previous, index, count + 1 => do
    let counter ← byte? index
    let block := (hmac key (previous ++ info ++ [counter])).toBytes
    let rest ← blocksInBytes key info block (index + 1) count
    return block ++ rest

/-- The first `length` bytes of output, nothing if the number of a block does not fit into its byte.
-/
def expandInBytes (key info : Bytes) (length : Nat) : Option Bytes :=
  (blocksInBytes key info [] 1 ((length + hashLength - 1) / hashLength)).map (List.take length)

/-- Output of one block always exists. -/
theorem expandInBytes_hashLength (key info : Bytes) :
    expandInBytes key info hashLength = some (hmac key (info ++ [1])).toBytes := by
  have one : blocksInBytes key info [] 1 ((hashLength + hashLength - 1) / hashLength) =
      some ((hmac key (info ++ [1])).toBytes ++ []) := rfl
  have whole : (hmac key (info ++ [1])).toBytes.length ≤ hashLength :=
    Nat.le_of_eq (Octets.length_toBytes _)
  rw [expandInBytes, one, List.append_nil, Option.map_some, List.take_of_length_le whole]

theorem length_of_expandInBytes_hashLength {key info output : Bytes}
    (written : expandInBytes key info hashLength = some output) : output.length = hashLength := by
  cases (expandInBytes_hashLength key info).symm.trans written
  exact Octets.length_toBytes _

/-- A key of `length` bytes derived from a secret for the given information string. -/
def deriveKey (secret : Bytes) (length : Nat) (info : Bytes) : Except CryptoError Bytes :=
  if hashLength ≤ length ∧ length ≤ maxOutputLength then
    match expandInBytes (extract secret) info length with
    | some output => .ok output
    | none => .error (.invalidOutputLength length hashLength maxOutputLength)
  else .error (.invalidOutputLength length hashLength maxOutputLength)

/-! ### Keys for a purpose -/

/-- What keys are derived for. -/
inductive Purpose where
  /-- Encryption of a shared-secret link. -/
  | linkCipher
  /-- The one-time signature of a shared-secret link. -/
  | linkSignature
  /-- Encryption of a legacy envelope. -/
  | envelopeCipher
  /-- The initial vector of a legacy envelope. -/
  | envelopeVector
  /-- Authentication of a legacy envelope. -/
  | envelopeMac
  deriving DecidableEq

/-- The label that sets a purpose apart. -/
def Purpose.label : Purpose → String
  | linkCipher => "sectra/encryptedonetimesignature/cipherkey"
  | linkSignature => "sectra/encryptedonetimesignature/signaturekey"
  | envelopeCipher => "sectra/symmetricencryption/cipherkey"
  | envelopeVector => "sectra/symmetricencryption/cipheriv"
  | envelopeMac => "sectra/symmetricencryption/mackey"

/-- The number of nonce bytes that follow the label of a purpose. -/
def Purpose.nonceSize : Purpose → Nat
  | linkCipher | linkSignature => 12
  | envelopeCipher | envelopeVector | envelopeMac => 16

/-- The information string of a label and a nonce. -/
def domainInfo (label : String) (nonce : Bytes) : Bytes := Text.utf8 label ++ nonce

/-- The key derived from a secret for a label and a nonce: output of one block, which there always
is. -/
def purposeKey (secret : Bytes) (label : String) (nonce : Bytes) : Octets 32 :=
  match written : expandInBytes (extract secret) (domainInfo label nonce) 32 with
  | some key => ⟨key, length_of_expandInBytes_hashLength written⟩
  | none => nomatch (expandInBytes_hashLength _ _).symm.trans written

end SealedLink.KeyDerivation
