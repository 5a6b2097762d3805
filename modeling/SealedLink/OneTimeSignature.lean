import SealedLink.Comparison
import SealedLink.Environment.Basic
import SealedLink.Hash.Hmac
import SealedLink.NonceStore.Basic

/-!
# One-time signatures

A signed message is accepted once, and only while it is fresh. Signing puts a timestamp and a nonce
in front of the data and an authentication code in front of both. Verification checks the form, the
age, the nonce and the code, in this order, and only an accepted message changes the nonce store:
its nonce is recorded, and expired records leave the front.

## Main definitions

* `StampedData` — data with its timestamp and nonce
* `StampedData.pack`, `StampedData.unpack` — the bytes that are signed
* `SignedMessage.parse` — a signed message taken apart
* `OneTimeSignature.sign` — signing
* `OneTimeSignature.verify` — acceptance of a signed message, and the nonce store after it
* `OneTimeSignature.signatureAge?` — the age of a signed message, whoever signed it
-/

namespace SealedLink

/-- Data with the timestamp and the nonce that make it fresh and unique. -/
structure StampedData where
  /-- When the data was signed. -/
  timestamp : Timestamp
  /-- What makes the message unique. -/
  nonce : Nonce
  /-- The data. -/
  data : Bytes
  deriving DecidableEq

namespace StampedData

/-- The length of a packed timestamp. -/
def timestampSize : Nat := 8

/-- The length of a nonce. -/
def nonceSize : Nat := 32

/-- The record that a store keeps of a message. -/
def record (s : StampedData) : NonceRecord := ⟨s.nonce, s.timestamp⟩

/-- The bytes that are signed: the binary timestamp, least significant byte first, the nonce, the
data. -/
def pack (s : StampedData) : Bytes :=
  Bytes.ofNatLE timestampSize s.timestamp.toBinary.toNat ++ (s.nonce.toBytes ++ s.data)

/-- The timestamp and the nonce are not complete. -/
def tooShort (length : Nat) : LaunchError :=
  .invalidInput "signed data"
    s!"{length} bytes is shorter than timestamp and nonce ({timestampSize + nonceSize} bytes)"

/-- The stamped data of packed bytes. -/
def unpack (packed : Bytes) : Except LaunchError StampedData :=
  match Octets.split? timestampSize packed with
  | none => .error (tooShort packed.length)
  | some (binary, rest) =>
    match Octets.split? nonceSize rest with
    | none => .error (tooShort packed.length)
    | some (nonce, data) =>
      match Timestamp.ofBinary (UInt64.ofNat (Bytes.toNatLE binary.toBytes)) with
      | .error e => .error e
      | .ok timestamp => .ok ⟨timestamp, nonce, data⟩

end StampedData

/-- A signed message taken apart. -/
structure SignedMessage where
  /-- The authentication code. -/
  mac : Octets 32
  /-- The bytes that it authenticates. -/
  packed : Bytes
  /-- What they say. -/
  content : StampedData
  deriving DecidableEq

namespace SignedMessage

/-- The length of an authentication code. -/
def macSize : Nat := 32

/-- The least length of a signed message. -/
def minLength : Nat := macSize + StampedData.timestampSize + StampedData.nonceSize

/-- The parts of a signed message. -/
def parse (signed : Bytes) : Except LaunchError SignedMessage :=
  match Octets.split? macSize signed with
  | none =>
    .error (.invalidInput "signature"
      s!"{signed.length} bytes is shorter than the minimum of {minLength}")
  | some (mac, packed) =>
    match StampedData.unpack packed with
    | .error e => .error e
    | .ok content => .ok ⟨mac, packed, content⟩

/-- The message was signed under the given key. -/
def authenticate (key : Bytes) (m : SignedMessage) : Except LaunchError Unit :=
  match boundedEq (hmac key m.packed).toBytes m.mac.toBytes macSize with
  | .error e => .error (.crypto e)
  | .ok true => .ok ()
  | .ok false => .error (.authenticationFailed "signature mismatch")

end SignedMessage

namespace OneTimeSignature

/-- The age up to which a signature is accepted by default, half a minute. -/
def defaultMaxAge : Duration := Duration.ofSeconds 30

/-! ### Signing -/

/-- The signed message of some data: its authentication code, then the packed bytes. -/
def signWith (key : Bytes) (content : StampedData) : Bytes :=
  (hmac key content.pack).toBytes ++ content.pack

/-- The signed message of some data at the time of the environment, under a fresh nonce. -/
def sign {ε : Type} [Environment ε] (data key : Bytes) : Randomized ε Bytes := do
  let timestamp ← Randomized.timestamp
  let nonce ← Randomized.request StampedData.nonceSize
  return signWith key ⟨timestamp, nonce, data⟩

/-! ### Verification -/

variable {σ : Type} [NonceStore σ]

/-- The data of a signed message that is accepted at the time `now`, and the store after it. -/
def verify (maxAge : Duration) (now : Timestamp) (signed key : Bytes) (store : σ) :
    Except LaunchError Bytes × σ :=
  match SignedMessage.parse signed with
  | .error e => (.error e, store)
  | .ok message =>
    match message.content.timestamp.staleAge? now maxAge with
    | some age => (.error (.stale age maxAge), store)
    | none =>
      if NonceStore.contains message.content.nonce store then (.error .replay, store)
      else
        match message.authenticate key with
        | .error e => (.error e, store)
        | .ok () =>
          match NonceStore.enqueueIfAbsent message.content.record store with
          | (false, store) => (.error .replay, store)
          | (true, store) =>
            (.ok message.content.data,
              (NonceStore.purgeExpired (NonceRecord.isExpired now maxAge) store).2)

/-- The age of a signed message at the time `now`; nothing for one that is malformed or from the
future. -/
def signatureAge? (now : Timestamp) (signed : Bytes) : Option Duration :=
  if signed.length < SignedMessage.macSize then none
  else
    match StampedData.unpack (signed.drop SignedMessage.macSize) with
    | .ok content => content.timestamp.ageAt? now
    | .error _ => none

end OneTimeSignature

end SealedLink
