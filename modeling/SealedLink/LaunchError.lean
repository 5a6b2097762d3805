import SealedLink.CryptoError
import SealedLink.Time.Duration

/-!
# Errors of the link protocols

Every refusal of a link has a cause with details for the log. The outside world learns one fixed
sentence, and the kind of the error tells an operator what to make of it.

## Main definitions

* `LaunchError` — why a link was refused
* `LaunchError.message` — the text for the log
* `ErrorKind`, `LaunchError.kind` — malformed input, a possible attack, an old link, or a broken
  resource
* `LaunchError.publicMessage` — the text for the outside
* `LaunchError.ofCrypto` — a cryptographic error as the error of a link
-/

namespace SealedLink

/-- The causes for which a link or its input is refused. -/
inductive LaunchError where
  /-- A field that cannot be read. -/
  | invalidInput (field reason : String)
  /-- A signature longer than a package may carry. -/
  | signatureLengthExceeded (len max : Nat)
  /-- A package of another protocol version. -/
  | unsupportedVersion (version supported : UInt16)
  /-- A certificate used for signing or opening without its private key. -/
  | missingPrivateKey (party : String)
  /-- A certificate without an RSA public key. -/
  | missingPublicKey (party : String)
  /-- A one-time signature older than allowed. -/
  | stale (age maxAge : Duration)
  /-- A nonce that has been used before. -/
  | replay
  /-- A signature that does not match. -/
  | authenticationFailed (reason : String)
  /-- A package that cannot be decrypted. -/
  | decryptionFailed
  /-- An error of a cryptographic operation. -/
  | crypto (error : CryptoError)
  deriving DecidableEq

/-- What an operator makes of an error. -/
inductive ErrorKind where
  /-- The input is malformed. -/
  | validation
  /-- The input is not authentic, which may be an attack. -/
  | authentication
  /-- The input is too old. -/
  | freshness
  /-- A resource is unavailable. -/
  | resource
  deriving DecidableEq

/-- The text shown outside for every error. -/
def publicErrorMessage : String := "the launch request could not be verified"

namespace LaunchError

/-- The text for the log. -/
def message : LaunchError → String
  | invalidInput field reason => s!"invalid {field}: {reason}"
  | signatureLengthExceeded len max => s!"signature length {len} exceeds the allowed length of {max}"
  | unsupportedVersion version supported =>
    s!"unsupported protocol version {version}, expected {supported}"
  | missingPrivateKey party => s!"{party} certificate does not have a private key"
  | missingPublicKey party => s!"{party} certificate does not have an RSA public key"
  | stale age maxAge => s!"stale signature: age {age.text} exceeds maximum of {maxAge.text}"
  | replay => "nonce reused, possible replay attack"
  | authenticationFailed reason => s!"authentication failed: {reason}"
  | decryptionFailed => "could not decrypt the launch package"
  | crypto error => error.message

/-- The kind of an error. -/
def kind : LaunchError → ErrorKind
  | invalidInput .. | signatureLengthExceeded .. | unsupportedVersion .. | missingPrivateKey _
  | missingPublicKey _ => .validation
  | replay | authenticationFailed _ | decryptionFailed => .authentication
  | stale .. => .freshness
  | crypto error =>
    if error.isFatal then .resource
    else if error.isAuthenticationFailure then .authentication
    else .validation

/-- The error may be a sign of an attack. -/
def isAttackSignal (e : LaunchError) : Bool := e.kind = .authentication

/-- The error is one of the system and not of the input. -/
def isFatal (e : LaunchError) : Bool := e.kind = .resource

/-- The text shown outside, the same for every error. -/
def publicMessage (_ : LaunchError) : String := publicErrorMessage

/-- A cryptographic result, its error as the error of a link. -/
def ofCrypto {α : Type} : Except CryptoError α → Except LaunchError α
  | .ok x => .ok x
  | .error e => .error (.crypto e)

end LaunchError

end SealedLink
