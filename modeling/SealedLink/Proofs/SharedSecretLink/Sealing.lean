import SealedLink.Environment.Scripted
import SealedLink.Proofs.Envelope.Modern
import SealedLink.Proofs.KeyDerivation
import SealedLink.Proofs.OneTimeSignature.Signing
import SealedLink.Proofs.Time.Binary
import SealedLink.SharedSecretLink

/-!
# How a link under a shared secret is sealed

Sealing asks for random bytes three times and fails with the first request that does. The answers
are used in another order than they stand in the wire form: the nonce of the envelope is drawn
before the nonce of the signature and stands behind it.

## Main definitions

* `SharedSecretLink.Draws` — the random requests of a sealing succeed
* `SharedSecretLink.Draws.HasLayout` — where the parts of a wire form are

## Main results

* `SharedSecretLink.runIn_sealWire` — the wire form if all requests succeed
* `SharedSecretLink.runIn_sealWire_of_no_outerNonce`, `SharedSecretLink.runIn_sealWire_of_no_nonce`,
  `SharedSecretLink.runIn_sealWire_of_no_signatureNonce` — the error if one does not
* `SharedSecretLink.Draws.hasLayout_wire` — the layout of the wire form
-/

namespace SealedLink.SharedSecretLink

open KeyDerivation (Purpose deriveKey deriveKey_domainInfo)

/-- The three random requests of a sealing succeed, one after the other. -/
structure Draws {ε : Type} [Environment ε] (env : ε) where
  /-- The outer nonce. -/
  outerNonce : Octets outerNonceSize
  /-- The nonce of the envelope. -/
  nonce : Octets 12
  /-- The nonce of the signature. -/
  signatureNonce : Nonce
  /-- The environment after the first request. -/
  encrypting : ε
  /-- The environment after the second request, in which the message is signed. -/
  signing : ε
  /-- The environment after the last request. -/
  left : ε
  draw_outerNonce : Environment.draw outerNonceSize env = (.ok outerNonce, encrypting)
  draw_nonce : Environment.draw 12 encrypting = (.ok nonce, signing)
  draw_signatureNonce : Environment.draw StampedData.nonceSize signing = (.ok signatureNonce, left)

variable {ε : Type} [Environment ε] {env : ε} {plaintext secret envelope : Bytes}

namespace Draws

variable (draws : Draws env)

/-- The time of the signature. -/
def sealedAt : Timestamp := Environment.timestamp draws.signing

/-- The keys of the link. -/
def keys (secret : Bytes) : Keys := Keys.derive secret draws.outerNonce

/-- What is signed for an envelope. -/
def stamped (envelope : Bytes) : StampedData := ⟨draws.sealedAt, draws.signatureNonce, envelope⟩

/-- The signed message of an envelope. -/
def signed (secret envelope : Bytes) : Bytes :=
  OneTimeSignature.signWith (draws.keys secret).signatureKey.toBytes (draws.stamped envelope)

/-- The wire form of an envelope. -/
def wire (secret envelope : Bytes) : Bytes :=
  draws.outerNonce.toBytes ++ draws.signed secret envelope

/-- There is only one way in which the requests can succeed. -/
theorem unique (draws draws' : Draws env) : draws = draws' := by
  obtain ⟨x, y, z, a, b, c, first, second, third⟩ := draws
  obtain ⟨x', y', z', a', b', c', first', second', third'⟩ := draws'
  cases first.symm.trans first'
  cases second.symm.trans second'
  cases third.symm.trans third'
  rfl

end Draws

/-- The requests of the first sealing in a scripted environment without a script, at the epoch. -/
def epochDraws : Draws (ScriptedEnvironment.atInstant Instant.epoch) where
  outerNonce := ⟨List.replicate 12 1, rfl⟩
  nonce := ⟨List.replicate 12 2, rfl⟩
  signatureNonce := ⟨List.replicate 32 3, rfl⟩
  encrypting := ⟨Instant.epoch, [], 2, false⟩
  signing := ⟨Instant.epoch, [], 3, false⟩
  left := ⟨Instant.epoch, [], 4, false⟩
  draw_outerNonce := rfl
  draw_nonce := rfl
  draw_signatureNonce := rfl

/-! ### Runs -/

theorem checkKey_of_ne_nil (key : secret ≠ []) : checkKey secret = .ok () := by
  rw [checkKey, if_neg key]

/-- An empty secret is refused before anything is drawn. -/
theorem runIn_sealWire_of_empty (plaintext : Bytes) (env : ε) :
    (sealWire plaintext []).runIn env =
      (.error (.invalidInput "key" "must not be empty"), env) := by
  have refused : checkKey [] = .error (.invalidInput "key" "must not be empty") := rfl
  unfold sealWire
  rw [Randomized.runIn_bind_of_error (Randomized.runIn_ofExcept_of_error refused env)]

theorem runIn_sealWire_of_no_outerNonce (plaintext : Bytes) (key : secret ≠ []) {reason : String}
    {left : ε} (failed : Environment.draw outerNonceSize env = (.error reason, left)) :
    (sealWire plaintext secret).runIn env =
      (.error (.crypto (.randomUnavailable reason)), left) := by
  unfold sealWire
  rw [Randomized.runIn_bind_of_ok (Randomized.runIn_ofExcept_of_ok (checkKey_of_ne_nil key) env),
    Randomized.runIn_bind_of_error (Randomized.runIn_request_of_error failed)]

theorem runIn_sealWire_of_no_nonce (plaintext : Bytes) (key : secret ≠ []) {reason : String}
    {encrypting left : ε} {outerNonce : Octets outerNonceSize}
    (first : Environment.draw outerNonceSize env = (.ok outerNonce, encrypting))
    (failed : Environment.draw 12 encrypting = (.error reason, left)) :
    (sealWire plaintext secret).runIn env =
      (.error (.crypto (.randomUnavailable reason)), left) := by
  unfold sealWire
  rw [Randomized.runIn_bind_of_ok (Randomized.runIn_ofExcept_of_ok (checkKey_of_ne_nil key) env),
    Randomized.runIn_bind_of_ok (Randomized.runIn_request_of_ok first),
    Randomized.runIn_bind_of_error (Randomized.runIn_request_of_error failed)]

/-- After two requests that succeed the envelope is signed. -/
theorem runIn_sealWire_of_encrypt (key : secret ≠ []) {encrypting signing : ε}
    {outerNonce : Octets outerNonceSize} {nonce : Octets 12}
    (first : Environment.draw outerNonceSize env = (.ok outerNonce, encrypting))
    (second : Environment.draw 12 encrypting = (.ok nonce, signing))
    (encrypted : ModernEnvelope.encrypt plaintext
      (Keys.derive secret outerNonce).cipherKey.toBytes nonce = .ok envelope) :
    (sealWire plaintext secret).runIn env =
      Randomized.runIn signing (do
        let signed ← OneTimeSignature.sign envelope
          (Keys.derive secret outerNonce).signatureKey.toBytes
        return outerNonce.toBytes ++ signed) := by
  -- encryption is the one step that could fail for its input
  have lifted : LaunchError.ofCrypto (ModernEnvelope.encrypt plaintext
      (Keys.derive secret outerNonce).cipherKey.toBytes nonce) = .ok envelope := by
    rw [encrypted]
    rfl
  unfold sealWire
  rw [Randomized.runIn_bind_of_ok (Randomized.runIn_ofExcept_of_ok (checkKey_of_ne_nil key) env),
    Randomized.runIn_bind_of_ok (Randomized.runIn_request_of_ok first),
    Randomized.runIn_bind_of_ok (Randomized.runIn_request_of_ok second),
    Randomized.runIn_bind_of_ok (Randomized.runIn_ofExcept_of_ok lifted signing)]

theorem runIn_sealWire_of_no_signatureNonce (key : secret ≠ []) {reason : String}
    {encrypting signing left : ε} {outerNonce : Octets outerNonceSize} {nonce : Octets 12}
    (first : Environment.draw outerNonceSize env = (.ok outerNonce, encrypting))
    (second : Environment.draw 12 encrypting = (.ok nonce, signing))
    (failed : Environment.draw StampedData.nonceSize signing = (.error reason, left))
    (encrypted : ModernEnvelope.encrypt plaintext
      (Keys.derive secret outerNonce).cipherKey.toBytes nonce = .ok envelope) :
    (sealWire plaintext secret).runIn env =
      (.error (.crypto (.randomUnavailable reason)), left) := by
  rw [runIn_sealWire_of_encrypt key first second encrypted,
    Randomized.runIn_bind_of_error (OneTimeSignature.runIn_sign_of_error failed _ _)]

/-- If all requests succeed, what is sealed is the wire form of the envelope of the plaintext. -/
theorem runIn_sealWire (draws : Draws env) (key : secret ≠ [])
    (encrypted : ModernEnvelope.encrypt plaintext (draws.keys secret).cipherKey.toBytes
      draws.nonce = .ok envelope) :
    (sealWire plaintext secret).runIn env = (.ok (draws.wire secret envelope), draws.left) := by
  rw [runIn_sealWire_of_encrypt key draws.draw_outerNonce draws.draw_nonce encrypted,
    Randomized.runIn_bind_of_ok (OneTimeSignature.runIn_sign draws.draw_signatureNonce _ _),
    Randomized.runIn_pure]
  rfl

/-! ### Layout -/

namespace Draws

variable (draws : Draws env)

-- the parts are taken off from the front, one after the other

theorem length_wire (secret envelope : Bytes) :
    (draws.wire secret envelope).length = 84 + envelope.length := by
  simp only [wire, signed, OneTimeSignature.signWith, StampedData.pack, stamped,
    List.length_append, Octets.length_toBytes, Bytes.length_ofNatLE]
  simp only [outerNonceSize, StampedData.timestampSize]
  omega

theorem drop_wire (secret envelope : Bytes) :
    (draws.wire secret envelope).drop 12 = draws.signed secret envelope :=
  List.drop_left' draws.outerNonce.length_eq

theorem drop_wire_code (secret envelope : Bytes) :
    (draws.wire secret envelope).drop 44 = (draws.stamped envelope).pack := by
  rw [← List.drop_drop (i := 32) (j := 12), drop_wire]
  exact List.drop_left' (Octets.length_toBytes _)

theorem drop_wire_timestamp (secret envelope : Bytes) :
    (draws.wire secret envelope).drop 52 = draws.signatureNonce.toBytes ++ envelope := by
  rw [← List.drop_drop (i := 8) (j := 44), drop_wire_code]
  exact List.drop_left' (Bytes.length_ofNatLE _ _)

theorem drop_wire_signatureNonce (secret envelope : Bytes) :
    (draws.wire secret envelope).drop 84 = envelope := by
  rw [← List.drop_drop (i := 32) (j := 52), drop_wire_timestamp]
  exact List.drop_left' draws.signatureNonce.length_eq

/-- The parts of a wire form by their offsets. -/
structure HasLayout (plaintext secret wire : Bytes) : Prop where
  length_eq : wire.length = 113 + plaintext.length
  outerNonce_eq : wire.extract 0 12 = draws.outerNonce.toBytes
  /-- The code authenticates all that follows it, under a key that the outer nonce determines. -/
  code_eq : ∃ key,
    deriveKey secret 32
        (Text.utf8 "sectra/encryptedonetimesignature/signaturekey" ++ wire.extract 0 12) = .ok key ∧
      wire.extract 12 44 = (hmac key (wire.drop 44)).toBytes
  /-- The binary timestamp has its second highest bit set, which stands for UTC. -/
  timestamp_eq : wire.extract 44 52 = Bytes.ofNatLE 8 (2 ^ 62 + draws.sealedAt.ticks)
  signatureNonce_eq : wire.extract 52 84 = draws.signatureNonce.toBytes
  format_eq : wire[84]? = some 2
  nonce_eq : wire.extract 85 97 = draws.nonce.toBytes
  /-- The rest of the wire form is the envelope of the plaintext, under another key that the outer
  nonce determines. -/
  envelope_eq : ∃ key,
    deriveKey secret 32
        (Text.utf8 "sectra/encryptedonetimesignature/cipherkey" ++ wire.extract 0 12) = .ok key ∧
      ModernEnvelope.encrypt plaintext key draws.nonce = .ok (wire.drop 84)

/-- The wire form is as long as its parts and has them at these offsets. -/
theorem hasLayout_wire (encrypted : ModernEnvelope.encrypt plaintext
    (draws.keys secret).cipherKey.toBytes draws.nonce = .ok envelope) :
    draws.HasLayout plaintext secret (draws.wire secret envelope) := by
  obtain ⟨f, -, -, encoded⟩ := ModernEnvelope.encrypt_eq_ok_iff.mp encrypted
  have first : (draws.wire secret envelope).extract 0 12 = draws.outerNonce.toBytes :=
    List.take_left' draws.outerNonce.length_eq
  have last := draws.drop_wire_signatureNonce secret envelope
  constructor
  case length_eq =>
    rw [length_wire, ModernEnvelope.length_of_encrypt encrypted]
    omega
  case outerNonce_eq => exact first
  case code_eq =>
    refine ⟨(draws.keys secret).signatureKey.toBytes, ?_, ?_⟩
    · rw [first]
      exact deriveKey_domainInfo secret Purpose.linkSignature.label draws.outerNonce.toBytes
    · rw [List.extract_eq_take_drop, drop_wire, drop_wire_code]
      exact List.take_left' (Octets.length_toBytes _)
  case timestamp_eq =>
    have binary : draws.sealedAt.toBinary.toNat = 2 ^ 62 + draws.sealedAt.ticks :=
      Timestamp.toNat_toBinary draws.sealedAt
    rw [List.extract_eq_take_drop, drop_wire_code, ← binary]
    exact List.take_left' (Bytes.length_ofNatLE _ _)
  case signatureNonce_eq =>
    rw [List.extract_eq_take_drop, drop_wire_timestamp]
    exact List.take_left' draws.signatureNonce.length_eq
  case format_eq =>
    rw [← List.head?_drop, last, ← encoded]
    rfl
  case nonce_eq =>
    rw [List.extract_eq_take_drop, ← List.drop_drop (i := 1) (j := 84), last, ← encoded]
    exact List.take_left' draws.nonce.length_eq
  case envelope_eq =>
    refine ⟨(draws.keys secret).cipherKey.toBytes, ?_, ?_⟩
    · rw [first]
      exact deriveKey_domainInfo secret Purpose.linkCipher.label draws.outerNonce.toBytes
    · rw [last]
      exact encrypted

end Draws

end SealedLink.SharedSecretLink
