import SealedLink.Environment.Scripted
import SealedLink.Proofs.Cipher.Cbc
import SealedLink.Proofs.Environment
import SealedLink.Proofs.Rsa.KeyWrap
import SealedLink.Proofs.Rsa.Trial
import SealedLink.Proofs.SignedPayload
import SealedLink.PublicKeyLink

/-!
# Decryption of packages

A package decrypts to a message exactly if its payload is the encryption of the packed message under
the session key that the recipient unwraps. Each step of decryption accepts only what the step of
encryption it undoes can give, so there is nothing else that decrypts.

## Main results

* `PublicKeyLink.decrypt_eq_ok_iff_encrypted` — what decrypts, and to what
* `PublicKeyLink.runIn_encrypt_eq_ok_iff`, `PublicKeyLink.exists_encrypt` — the steps of an
  encryption, and when there is one
* `PublicKeyLink.decryption_inverts_encryption` — the two directions, for all packages and messages
-/

namespace SealedLink.PublicKeyLink

variable {p : Package} {m : SignedPayload} {recipient : Rsa.PrivateKey} {key : Rsa.PublicKey}

/-! ### Decryption -/

theorem checkForm_eq_ok_iff :
    checkForm p = .ok () ↔ p.cipherPayload ≠ [] ∧ p.wrappedKey ≠ [] ∧ p.vector.length = 16 := by
  have missing : p.vector.length = 16 → p.vector ≠ [] := by
    intro length empty
    rw [empty] at length
    cases length
  unfold checkForm
  dsimp only
  by_cases payload : p.cipherPayload = []
  · simp [payload]
  · by_cases wrapped : p.wrappedKey = []
    · simp [payload, wrapped]
    · by_cases length : p.vector.length = 16
      · simp [payload, wrapped, missing length, length, Cbc.blockSize]
      · by_cases empty : p.vector = [] <;> simp [payload, wrapped, length, empty, Cbc.blockSize]

/-- A package decrypts to a message exactly if it is the encryption of the packed message. -/
theorem decrypt_eq_ok_iff_encrypted :
    decrypt p recipient = .ok m ↔ p.vector.length = 16 ∧ p.wrappedKey ≠ [] ∧
      ∃ sessionKey packed, Rsa.unwrap? recipient p.wrappedKey = some sessionKey ∧
        m.pack = .ok packed ∧ Cbc.encrypt sessionKey p.vector packed = .ok p.cipherPayload := by
  simp only [← SignedPayload.unpack_eq_ok_iff_pack, ← Cbc.decrypt_eq_ok_iff_encrypt]
  constructor
  · intro decrypted
    -- only a package that passes every step is decrypted
    unfold decrypt at decrypted
    split at decrypted
    · cases decrypted
    · rename_i formed
      obtain ⟨-, wrapped, vector⟩ := checkForm_eq_ok_iff.mp formed
      split at decrypted
      · cases decrypted
      · rename_i sessionKey unwrapped
        split at decrypted
        · cases decrypted
        · rename_i packed opened
          split at decrypted
          · cases decrypted
          · rename_i message unpacked
            cases decrypted
            exact ⟨vector, wrapped, sessionKey, packed, unwrapped, unpacked, opened⟩
  · rintro ⟨vector, wrapped, sessionKey, packed, unwrapped, unpacked, opened⟩
    have payload : p.cipherPayload ≠ [] := by
      obtain ⟨-, -, -, written, -⟩ := Cbc.decrypt_eq_ok_iff.mp opened
      exact written
    have formed := checkForm_eq_ok_iff.mpr ⟨payload, wrapped, vector⟩
    simp only [decrypt, formed, unwrapped, opened, unpacked]

/-- The session key has one of the lengths of AES, and the signature fits. -/
theorem admitted_of_encrypted {sessionKey packed : Bytes} (written : m.pack = .ok packed)
    (encrypted : Cbc.encrypt sessionKey p.vector packed = .ok p.cipherPayload) :
    (sessionKey.length = 16 ∨ sessionKey.length = 24 ∨ sessionKey.length = 32) ∧
      m.signature.length ≤ 1024 := by
  obtain ⟨keys, -, scheduled, -⟩ := Cbc.encrypt_eq_ok_iff.mp encrypted
  exact ⟨Aes.KeySchedule.length_of_ofKey? scheduled, (SignedPayload.pack_eq_ok_iff.mp written).1⟩

/-- Under one wrapped key and one initial vector, payloads and messages correspond one to one. -/
theorem cipherPayload_eq_iff {p' : Package} {m' : SignedPayload}
    (sameKey : p.wrappedKey = p'.wrappedKey) (sameVector : p.vector = p'.vector)
    (h : decrypt p recipient = .ok m) (h' : decrypt p' recipient = .ok m') :
    p.cipherPayload = p'.cipherPayload ↔ m = m' := by
  obtain ⟨size, key, sessionKey, packed, unwrapped, written, encrypted⟩ :=
    decrypt_eq_ok_iff_encrypted.mp h
  obtain ⟨-, -, sessionKey', packed', unwrapped', written', encrypted'⟩ :=
    decrypt_eq_ok_iff_encrypted.mp h'
  -- one wrapped key gives one session key
  rw [← sameKey, unwrapped, Option.some.injEq] at unwrapped'
  subst unwrapped'
  rw [← sameVector] at encrypted'
  constructor
  · intro samePayload
    rw [← samePayload] at encrypted'
    have other : decrypt p recipient = .ok m' := decrypt_eq_ok_iff_encrypted.mpr
      ⟨size, key, sessionKey, packed', unwrapped, written', encrypted'⟩
    exact Except.ok.inj (h.symm.trans other)
  · rintro rfl
    obtain rfl : packed = packed' := Except.ok.inj (written.symm.trans written')
    exact Except.ok.inj (encrypted.symm.trans encrypted')

/-- A package decrypts if its session key was wrapped for the recipient. -/
theorem decrypt_of_wrapped {seed : Octets 20} {sessionKey packed : Bytes}
    (unwraps : recipient.Unwraps)
    (wrapped : Rsa.wrap recipient.publicKey seed sessionKey = .ok p.wrappedKey)
    (size : p.vector.length = 16) (written : m.pack = .ok packed)
    (encrypted : Cbc.encrypt sessionKey p.vector packed = .ok p.cipherPayload) :
    decrypt p recipient = .ok m :=
  decrypt_eq_ok_iff_encrypted.mpr ⟨size, Rsa.ne_nil_of_wrap wrapped, sessionKey, packed,
    unwraps _ _ _ wrapped, written, encrypted⟩

/-! ### Encryption -/

section Encryption

variable {ε : Type} [Environment ε] {env env' : ε} {seed : Octets 20}

theorem ofCrypto_eq_ok_iff {α : Type} {x : Except CryptoError α} {a : α} :
    LaunchError.ofCrypto x = .ok a ↔ x = .ok a := by
  cases x <;> simp [LaunchError.ofCrypto]

theorem wrapKey_eq_ok_iff {sessionKey wrapped : Bytes} :
    wrapKey key seed sessionKey = .ok wrapped ↔ Rsa.wrap key seed sessionKey = .ok wrapped := by
  unfold wrapKey
  cases Rsa.wrap key seed sessionKey <;> simp

/-- An encryption that succeeds, step by step, with what was drawn for it. -/
theorem runIn_encrypt_eq_ok_iff :
    (encrypt seed m key).runIn env = (.ok p, env') ↔
      ∃ packed mid sessionKey vector, m.pack = .ok packed ∧
        Environment.draw sessionKeySize env = (.ok sessionKey, mid) ∧
        Environment.draw Cbc.blockSize mid = (.ok vector, env') ∧
        Cbc.encrypt sessionKey.toBytes vector.toBytes packed = .ok p.cipherPayload ∧
        Rsa.wrap key seed sessionKey.toBytes = .ok p.wrappedKey ∧
        vector.toBytes = p.vector ∧ p.version = protocolVersion := by
  simp only [encrypt, Randomized.runIn_bind_eq_ok_iff, Randomized.runIn_ofExcept_eq_ok_iff,
    Randomized.runIn_request_eq_ok_iff, Randomized.runIn_pure_eq_ok_iff, ofCrypto_eq_ok_iff,
    wrapKey_eq_ok_iff]
  constructor
  · rintro ⟨packed, _, ⟨written, rfl⟩, sessionKey, mid, first, vector, _, second, cipherPayload, _,
      ⟨encrypted, rfl⟩, wrappedKey, _, ⟨wrapped, rfl⟩, rfl, rfl⟩
    exact ⟨packed, mid, sessionKey, vector, written, first, second, encrypted, wrapped, rfl, rfl⟩
  · rintro ⟨packed, mid, sessionKey, vector, written, first, second, encrypted, wrapped, drawn,
      version⟩
    refine ⟨packed, env, ⟨written, rfl⟩, sessionKey, mid, first, vector, env', second,
      p.cipherPayload, env', ⟨encrypted, rfl⟩, p.wrappedKey, env', ⟨wrapped, rfl⟩, ?_, rfl⟩
    rw [drawn, ← version]

/-- A message with a signature of admitted length is encrypted if both requests succeed and the key
of the recipient has room for a session key. -/
theorem exists_encrypt {mid : ε} {sessionKey : Octets sessionKeySize}
    {vector : Octets Cbc.blockSize} (short : m.signature.length ≤ 1024) (room : 74 ≤ key.size)
    (first : Environment.draw sessionKeySize env = (.ok sessionKey, mid))
    (second : Environment.draw Cbc.blockSize mid = (.ok vector, env')) (seed : Octets 20) :
    ∃ p, (encrypt seed m key).runIn env = (.ok p, env') := by
  obtain ⟨packed, written⟩ : ∃ packed, m.pack = .ok packed :=
    ⟨_, SignedPayload.pack_eq_ok_iff.mpr ⟨short, rfl⟩⟩
  obtain ⟨cipherPayload, encrypted⟩ := Cbc.exists_encrypt vector.length_eq
    (.inr (.inr sessionKey.length_eq)) packed
  have fits : sessionKey.toBytes.length + 42 ≤ key.size := by
    rw [sessionKey.length_eq]
    exact room
  obtain ⟨wrappedKey, wrapped⟩ := Rsa.exists_wrap fits seed
  exact ⟨⟨cipherPayload, wrappedKey, vector.toBytes, protocolVersion⟩,
    runIn_encrypt_eq_ok_iff.mpr ⟨packed, mid, sessionKey, vector, written, first, second, encrypted,
      wrapped, rfl, rfl⟩⟩

/-- What is encrypted is decrypted by a recipient that unwraps the session key. -/
theorem decrypt_of_encrypt (unwraps : recipient.Unwraps)
    (h : (encrypt seed m recipient.publicKey).runIn env = (.ok p, env')) :
    decrypt p recipient = .ok m := by
  obtain ⟨packed, _, sessionKey, vector, written, -, -, encrypted, wrapped, drawn, -⟩ :=
    runIn_encrypt_eq_ok_iff.mp h
  have size := vector.length_eq
  rw [drawn] at encrypted size
  exact decrypt_of_wrapped unwraps wrapped size written encrypted

/-- Seed and draws decide the wrapped key and the initial vector, whatever the message. -/
theorem wrapping_eq_of_encrypt {p' : Package} {m' : SignedPayload} {env'' : ε}
    (h : (encrypt seed m key).runIn env = (.ok p, env'))
    (h' : (encrypt seed m' key).runIn env = (.ok p', env'')) :
    p.wrappedKey = p'.wrappedKey ∧ p.vector = p'.vector := by
  obtain ⟨_, _, sessionKey, vector, -, first, second, -, wrapped, drawn, -⟩ :=
    runIn_encrypt_eq_ok_iff.mp h
  obtain ⟨_, _, sessionKey', vector', -, first', second', -, wrapped', drawn', -⟩ :=
    runIn_encrypt_eq_ok_iff.mp h'
  -- the environment answers both encryptions alike
  rw [first, Prod.mk.injEq, Except.ok.injEq] at first'
  obtain ⟨rfl, rfl⟩ := first'
  rw [second, Prod.mk.injEq, Except.ok.injEq] at second'
  obtain ⟨rfl, rfl⟩ := second'
  exact ⟨Except.ok.inj (wrapped.symm.trans wrapped'), drawn.symm.trans drawn'⟩

/-- A signature that is too long is refused before anything is drawn. -/
theorem runIn_encrypt_of_long (h : 1024 < m.signature.length) :
    (encrypt seed m key).runIn env =
      (.error (.signatureLengthExceeded m.signature.length 1024), env) := by
  rw [encrypt, SignedPayload.pack_of_long h, Randomized.runIn_bind]
  rfl

end Encryption

/-! ### The two directions -/

/-- **Decryption is the inverse of packing and encryption.** A package decrypts to a message exactly
if its payload is the encryption of the packed message under the initial vector and the session key
that the recipient unwraps, so payloads and messages correspond one to one. What is encrypted is
decrypted, and messages that cannot be packed are refused before anything is drawn. -/
theorem decryption_inverts_encryption (recipient : Rsa.PrivateKey) :
    (∀ p m, decrypt p recipient = .ok m ↔
      p.vector.length = 16 ∧ p.wrappedKey ≠ [] ∧ m.signature.length ≤ 1024 ∧
      ∃ sessionKey packed, Rsa.unwrap? recipient p.wrappedKey = some sessionKey ∧
        (sessionKey.length = 16 ∨ sessionKey.length = 24 ∨ sessionKey.length = 32) ∧
        m.pack = .ok packed ∧ Cbc.encrypt sessionKey p.vector packed = .ok p.cipherPayload) ∧
    (∀ p p' m m', p.wrappedKey = p'.wrappedKey → p.vector = p'.vector →
      decrypt p recipient = .ok m → decrypt p' recipient = .ok m' →
      (p.cipherPayload = p'.cipherPayload ↔ m = m')) ∧
    (recipient.Unwraps → ∀ (ε : Type) [Environment ε] (env env' : ε) (seed : Octets 20),
      (∀ m p, (encrypt seed m recipient.publicKey).runIn env = (.ok p, env') →
        decrypt p recipient = .ok m) ∧
      ∀ m mid sessionKey vector, m.signature.length ≤ 1024 → 74 ≤ recipient.publicKey.size →
        Environment.draw sessionKeySize env = (.ok sessionKey, mid) →
        Environment.draw Cbc.blockSize mid = (.ok vector, env') →
        ∃ p, (encrypt seed m recipient.publicKey).runIn env = (.ok p, env') ∧
          decrypt p recipient = .ok m) ∧
    (∀ (ε : Type) [Environment ε] (env : ε) (seed : Octets 20) (key : Rsa.PublicKey) m,
      1024 < m.signature.length →
      (encrypt seed m key).runIn env =
        (.error (.signatureLengthExceeded m.signature.length 1024), env)) := by
  refine ⟨?_, fun p p' m m' => cipherPayload_eq_iff, ?_, ?_⟩
  · intro p m
    rw [decrypt_eq_ok_iff_encrypted]
    refine and_congr_right fun _ => and_congr_right fun _ => ?_
    constructor
    · rintro ⟨sessionKey, packed, unwrapped, written, encrypted⟩
      obtain ⟨admitted, short⟩ := admitted_of_encrypted written encrypted
      exact ⟨short, sessionKey, packed, unwrapped, admitted, written, encrypted⟩
    · rintro ⟨-, sessionKey, packed, unwrapped, -, written, encrypted⟩
      exact ⟨sessionKey, packed, unwrapped, written, encrypted⟩
  · intro unwraps ε _ env env' seed
    refine ⟨fun m p => decrypt_of_encrypt unwraps, ?_⟩
    intro m mid sessionKey vector short room first second
    obtain ⟨p, encrypted⟩ := exists_encrypt short room first second seed
    exact ⟨p, encrypted, decrypt_of_encrypt unwraps encrypted⟩
  · intro ε _ env seed key m long
    exact runIn_encrypt_of_long long

/-- A short payload under as many bytes as a signature is to have. -/
def signedAtLength (n : Nat) : SignedPayload := ⟨[0x61], List.replicate n 0xab⟩

theorem length_signedAtLength (n : Nat) : (signedAtLength n).signature.length = n :=
  List.length_replicate

/-- Signatures of the two greatest lengths are encrypted for a trial key with the same draws, and
decrypted with it; the wrapped key and the vector are the same, and the payloads are not. One byte
more is too long. -/
theorem longest_signature_is_decrypted :
    Rsa.trialKey2.Unwraps ∧
      (∃ p p' env', (encrypt (Octets.zero 20) (signedAtLength 1024) Rsa.trialKey2.publicKey).runIn
          (ScriptedEnvironment.atInstant Instant.epoch) = (.ok p, env') ∧
        (encrypt (Octets.zero 20) (signedAtLength 1023) Rsa.trialKey2.publicKey).runIn
          (ScriptedEnvironment.atInstant Instant.epoch) = (.ok p', env') ∧
        decrypt p Rsa.trialKey2 = .ok (signedAtLength 1024) ∧
        decrypt p' Rsa.trialKey2 = .ok (signedAtLength 1023) ∧
        p.wrappedKey = p'.wrappedKey ∧ p.vector = p'.vector ∧
        p.cipherPayload ≠ p'.cipherPayload) ∧
      (encrypt (Octets.zero 20) (signedAtLength 1025) Rsa.trialKey2.publicKey).runIn
          (ScriptedEnvironment.atInstant Instant.epoch) =
        (.error (.signatureLengthExceeded 1025 1024),
          ScriptedEnvironment.atInstant Instant.epoch) := by
  obtain ⟨-, bijective, encrypts, refuses⟩ := decryption_inverts_encryption Rsa.trialKey2
  have unwraps := Rsa.isGenuine_trialKey2.unwraps
  have room : 74 ≤ Rsa.trialKey2.publicKey.size := by simp [Rsa.size_trialKey2]
  have drawn :
      Environment.draw sessionKeySize (ScriptedEnvironment.atInstant Instant.epoch) = _ := rfl
  have short := Nat.le_of_eq (length_signedAtLength 1024)
  have shorter : (signedAtLength 1023).signature.length ≤ 1024 := by
    rw [length_signedAtLength]
    decide
  have long : 1024 < (signedAtLength 1025).signature.length := by
    rw [length_signedAtLength]
    decide
  have different : signedAtLength 1024 ≠ signedAtLength 1023 := by
    intro same
    have lengths := congrArg (·.signature.length) same
    simp only [length_signedAtLength] at lengths
    cases lengths
  refine ⟨unwraps, ?_, ?_⟩
  · obtain ⟨p, encrypted, decrypted⟩ :=
      (encrypts unwraps _ _ _ (Octets.zero 20)).2 _ _ _ _ short room drawn rfl
    obtain ⟨p', encrypted', decrypted'⟩ :=
      (encrypts unwraps _ _ _ (Octets.zero 20)).2 _ _ _ _ shorter room drawn rfl
    obtain ⟨sameKey, sameVector⟩ := wrapping_eq_of_encrypt encrypted encrypted'
    refine ⟨p, p', _, encrypted, encrypted', decrypted, decrypted', sameKey, sameVector, ?_⟩
    intro samePayload
    exact different ((bijective _ _ _ _ sameKey sameVector decrypted decrypted').mp samePayload)
  · rw [refuses _ _ _ _ _ long, length_signedAtLength]

end SealedLink.PublicKeyLink
