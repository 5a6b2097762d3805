import SealedLink.Envelope.Decryption
import SealedLink.OneTimeSignature
import SealedLink.Query
import SealedLink.Text.Base64
import SealedLink.Text.Blank

/-!
# Links under a shared secret

Both parties hold one secret key. A link carries one query field with the base64 text of a wire
form: a random outer nonce, then a one-time signature over a modern envelope of the plaintext.
Cipher key and signature key are derived from the secret and the outer nonce. A message whose
signature verifies is used up, even if what it carries cannot be decrypted then.

## Main definitions

* `SharedSecretLink.sealWire`, `SharedSecretLink.openWire` — the wire form of a byte string
* `SharedSecretLink.sealQuery`, `SharedSecretLink.openQuery` — the query of a text
* `SharedSecretLink.sealQueryWithTextKey`, `SharedSecretLink.openQueryWithTextKey` — the same for a
  key given as base64 text
* `SharedSecretLink.isSealed` — a query carries a link of this kind
-/

namespace SealedLink.SharedSecretLink

open KeyDerivation (Purpose purposeKey)

/-- The query field of a link. -/
def parameter : String := "sharedSecretEncryptedUrlQuery"

/-- The length of the outer nonce. -/
def outerNonceSize : Nat := 12

/-! ### Keys -/

/-- The keys of one link. -/
structure Keys where
  /-- The key of the envelope. -/
  cipherKey : Octets 32
  /-- The key of the one-time signature. -/
  signatureKey : Octets 32
  deriving DecidableEq

/-- The keys derived from the secret for an outer nonce. -/
def Keys.derive (secret : Bytes) (outerNonce : Octets outerNonceSize) : Keys where
  cipherKey := purposeKey secret Purpose.linkCipher.label outerNonce.toBytes
  signatureKey := purposeKey secret Purpose.linkSignature.label outerNonce.toBytes

/-- A secret must not be empty. -/
def checkKey (secret : Bytes) : Except LaunchError Unit :=
  if secret = [] then .error (.invalidInput "key" "must not be empty") else .ok ()

/-- The secret that a base64 text stands for; blanks at its ends do not count. -/
def decodeKey (secretText : String) : Except LaunchError Bytes :=
  match Base64.decodeText (Text.trimBlank secretText) with
  | .ok secret => .ok secret
  | .error fault => .error (.invalidInput "key" s!"invalid base64: {fault.message}")

/-! ### Sealing -/

section Sealing

variable {ε : Type} [Environment ε]

/-- The wire form of a plaintext. -/
def sealWire (plaintext secret : Bytes) : Randomized ε Bytes := do
  Randomized.ofExcept (checkKey secret)
  let outerNonce ← Randomized.request outerNonceSize
  let keys := Keys.derive secret outerNonce
  let nonce ← Randomized.request 12
  let envelope ← Randomized.ofExcept
    (LaunchError.ofCrypto (ModernEnvelope.encrypt plaintext keys.cipherKey.toBytes nonce))
  let signed ← OneTimeSignature.sign envelope keys.signatureKey.toBytes
  return outerNonce.toBytes ++ signed

/-- The query with the wire form as its field. -/
def queryOfWire (wire : Bytes) : String :=
  parameter ++ "=" ++ Query.encodeValue (Base64.encodeText wire)

/-- The query of a plaintext. -/
def sealQuery (plaintext : String) (secret : Bytes) : Randomized ε String := do
  return queryOfWire (← sealWire (Text.utf8 plaintext) secret)

/-- The query of a plaintext under a secret given as base64 text. -/
def sealQueryWithTextKey (plaintext secretText : String) : Randomized ε String := do
  let secret ← Randomized.ofExcept (decodeKey secretText)
  sealQuery plaintext secret

end Sealing

/-! ### Opening -/

/-- The outer nonce and the signed message of a wire form. -/
def splitWire (wire : Bytes) : Except LaunchError (Octets outerNonceSize × Bytes) :=
  match Octets.split? outerNonceSize wire with
  | some parts => .ok parts
  | none => .error (.invalidInput parameter "shorter than the outer nonce")

/-- The wire form that a query carries. -/
def wireOfQuery (query : String) : Except LaunchError Bytes :=
  match (Query.get? query parameter).filter (· ≠ "") with
  | none => .error (.invalidInput parameter "value either does not exist or is not set")
  | some value =>
    match Base64.decodeText value with
    | .ok wire => .ok wire
    | .error fault => .error (.invalidInput parameter s!"invalid base64: {fault.message}")

/-- The text of a plaintext. -/
def textOfPlaintext (plaintext : Bytes) : Except LaunchError String :=
  match Text.ofUtf8? plaintext with
  | some text => .ok text
  | none => .error (.invalidInput "plaintext" "not valid UTF-8")

section Opening

variable {σ : Type} [NonceStore σ]

/-- The plaintext of a wire form that is accepted at the time `now`, and the store after it. -/
def openWire (maxAge : Duration) (now : Timestamp) (wire secret : Bytes) (store : σ) :
    Except LaunchError Bytes × σ :=
  match checkKey secret with
  | .error e => (.error e, store)
  | .ok () =>
    match splitWire wire with
    | .error e => (.error e, store)
    | .ok (outerNonce, signed) =>
      let keys := Keys.derive secret outerNonce
      match OneTimeSignature.verify maxAge now signed keys.signatureKey.toBytes store with
      | (.error e, store) => (.error e, store)
      | (.ok envelope, store) =>
        (LaunchError.ofCrypto (Envelope.decrypt envelope keys.cipherKey.toBytes), store)

/-- The plaintext of a query that is accepted at the time `now`, and the store after it. -/
def openQuery (maxAge : Duration) (now : Timestamp) (query : String) (secret : Bytes) (store : σ) :
    Except LaunchError String × σ :=
  match wireOfQuery query with
  | .error e => (.error e, store)
  | .ok wire =>
    match openWire maxAge now wire secret store with
    | (.error e, store) => (.error e, store)
    | (.ok plaintext, store) => (textOfPlaintext plaintext, store)

/-- The plaintext of a query under a secret given as base64 text, and the store after it. -/
def openQueryWithTextKey (maxAge : Duration) (now : Timestamp) (query secretText : String)
    (store : σ) : Except LaunchError String × σ :=
  match decodeKey secretText with
  | .error e => (.error e, store)
  | .ok secret => openQuery maxAge now query secret store

end Opening

/-- The query carries a link under a shared secret. -/
def isSealed (query : String) : Bool := Query.hasValue query parameter

end SealedLink.SharedSecretLink
