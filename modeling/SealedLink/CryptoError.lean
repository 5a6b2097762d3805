/-!
# Errors of the cryptographic operations

## Main definitions

* `CryptoError` — what can go wrong in a cryptographic operation
* `CryptoError.message` — the text shown for it
* `CryptoError.isFatal` — the random source failed, so nothing was decided about the input
* `CryptoError.isAuthenticationFailure` — the input was not produced under the given key
-/

namespace SealedLink

/-- The causes for which a cryptographic operation refuses its input. -/
inductive CryptoError where
  /-- A key of the wrong length. -/
  | invalidKeyLength (expected actual : Nat)
  /-- An operand longer than the caller's bound. -/
  | lengthExceeded (field : String) (len max : Nat)
  /-- A derived key of an impossible length was requested. -/
  | invalidOutputLength (requested min max : Nat)
  /-- Input that does not have the expected form. -/
  | malformed (reason : String)
  /-- An envelope of another format version. -/
  | unsupportedCipher (expected actual : UInt8)
  /-- An authentication tag that does not match. -/
  | authenticationFailed (reason : String)
  /-- The random source could not serve a request. -/
  | randomUnavailable (reason : String)
  deriving DecidableEq

namespace CryptoError

/-- The text shown for an error. -/
def message : CryptoError → String
  | invalidKeyLength expected actual => s!"invalid key length: expected {expected}, got {actual}"
  | lengthExceeded field len max => s!"{field} length {len} exceeds maximum of {max}"
  | invalidOutputLength requested min max =>
    s!"invalid output length {requested}: must be between {min} and {max}"
  | malformed reason => s!"malformed input: {reason}"
  | unsupportedCipher expected actual =>
    s!"data was encrypted with an unsupported cipher, expected {expected}, got {actual}"
  | authenticationFailed reason => s!"failed to authenticate message: {reason}"
  | randomUnavailable reason => s!"secure random source unavailable: {reason}"

/-- Only a failing random source makes an operation unusable for every input. -/
def isFatal : CryptoError → Bool
  | randomUnavailable _ => true
  | _ => false

/-- The input failed authentication under the given key. -/
def isAuthenticationFailure : CryptoError → Bool
  | authenticationFailed _ => true
  | _ => false

end CryptoError

end SealedLink
