import SealedLink.Cipher.Cbc
import SealedLink.Environment.Basic
import SealedLink.Package
import SealedLink.Rsa.KeyWrap
import SealedLink.SignedPayload

/-!
# Links under key pairs

The sender signs the plaintext with a private key, packs plaintext and signature together, encrypts
them under a fresh session key, and wraps the session key for the recipient. The recipient undoes
these steps. Between the checks of a package's form and a verified signature only three errors can
arise, and none of them tells anything about the decrypted bytes.

## Main definitions

* `PublicKeyLink.encrypt`, `PublicKeyLink.decrypt` — the package of a signed payload, and back
* `PublicKeyLink.sealQuery`, `PublicKeyLink.openQuery` — the query of a text, and back
-/

namespace SealedLink.PublicKeyLink

/-- The version of the protocol. -/
def protocolVersion : UInt16 := 1

/-- The length of a session key. -/
def sessionKeySize : Nat := 32

/-! ### Packages -/

/-- The session key wrapped for a recipient with a given seed. -/
def wrapKey (recipient : Rsa.PublicKey) (seed : Octets 20) (sessionKey : Bytes) :
    Except LaunchError Bytes :=
  match Rsa.wrap recipient seed sessionKey with
  | .ok wrapped => .ok wrapped
  | .error fault => .error (.invalidInput "recipient public key" fault.message)

/-- The package of a signed payload for a recipient. Session key and initial vector are drawn from
the environment; the seed of the key wrapping is given. -/
def encrypt {ε : Type} [Environment ε] (seed : Octets 20) (message : SignedPayload)
    (recipient : Rsa.PublicKey) : Randomized ε Package := do
  let packed ← Randomized.ofExcept message.pack
  let sessionKey ← Randomized.request sessionKeySize
  let vector ← Randomized.request Cbc.blockSize
  let cipherPayload ← Randomized.ofExcept
    (LaunchError.ofCrypto (Cbc.encrypt sessionKey.toBytes vector.toBytes packed))
  let wrappedKey ← Randomized.ofExcept (wrapKey recipient seed sessionKey.toBytes)
  return ⟨cipherPayload, wrappedKey, vector.toBytes, protocolVersion⟩

/-- The binary fields of a package must not be empty, and the initial vector must have its length.
-/
def checkForm (p : Package) : Except LaunchError Unit :=
  let missing := fun (field : Package.Field) =>
    Except.error (LaunchError.invalidInput field.name "must not be empty")
  if p.cipherPayload = [] then missing .cipherPayload
  else if p.wrappedKey = [] then missing .wrappedKey
  else if p.vector = [] then missing .vector
  else if p.vector.length ≠ Cbc.blockSize then
    .error (.invalidInput Package.Field.vector.name
      s!"expected {Cbc.blockSize} bytes, got {p.vector.length}")
  else .ok ()

/-- The signed payload in a package. -/
def decrypt (p : Package) (recipient : Rsa.PrivateKey) : Except LaunchError SignedPayload :=
  match checkForm p with
  | .error e => .error e
  | .ok () =>
    match Rsa.unwrap? recipient p.wrappedKey with
    | none => .error .decryptionFailed
    | some sessionKey =>
      match Cbc.decrypt sessionKey p.vector p.cipherPayload with
      | .error _ => .error .decryptionFailed
      | .ok packed =>
        match SignedPayload.unpack packed with
        | .error _ => .error (.authenticationFailed "malformed signature length prefix")
        | .ok message => .ok message

/-! ### Queries -/

/-- The query of a text, signed by the sender and encrypted to the recipient. -/
def sealQuery {ε : Type} [Environment ε] (seed : Octets 20) (plaintext : String)
    (sender : Rsa.PrivateKey) (recipient : Rsa.PublicKey) : Randomized ε String := do
  let message ← Randomized.ofExcept (SignedPayload.sign (Text.utf8 plaintext) sender)
  return (← encrypt seed message recipient).serialize

/-- A package must be of the version of the protocol. -/
def checkVersion (p : Package) : Except LaunchError Unit :=
  if p.version = protocolVersion then .ok ()
  else .error (.unsupportedVersion p.version protocolVersion)

/-- The text in a query, encrypted to the recipient and signed by the sender. -/
def openQuery (query : String) (recipient : Rsa.PrivateKey) (sender : Rsa.PublicKey) :
    Except LaunchError String := do
  let p ← Package.deserialize query
  checkVersion p
  let message ← decrypt p recipient
  message.verify sender
  match Text.ofUtf8? message.payload with
  | some text => return text
  | none => throw (.invalidInput "plaintext" "not valid UTF-8")

end SealedLink.PublicKeyLink
