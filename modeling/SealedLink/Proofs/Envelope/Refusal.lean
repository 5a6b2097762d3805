import SealedLink.Proofs.Cipher.Cbc.Stages
import SealedLink.Proofs.Envelope.Acceptance

/-!
# Why an envelope is refused, and in which order

An envelope is refused for the first of its stages that fails: its format byte, its header, the
length of the key, its tag or code, and, in the legacy format, its ciphertext. The ciphertext of a
legacy envelope is looked at only if its code is right, so nobody without the key learns anything
about padding. Readers of one format refuse whole envelopes of the other before they look at the
key, and are no different in anything else.

## Main definitions

* `FormatVersion.AdmitsKey` — the lengths of keys
* `Envelope.IsAuthentic` — the tag or code is the right one
* `Envelope.FailsWith` — the error of the first stage that fails

## Main results

* `Envelope.decrypt_eq_error_iff` — why an envelope is refused
* `Envelope.modernDecrypt_eq`, `Envelope.legacyDecrypt_eq` — readers of one format, in terms of the
  reader of both
* `Envelope.refusals_are_staged` — all of it
-/

namespace SealedLink

/-! ### The two formats -/

/-- The length of a key is one for a format. -/
def FormatVersion.AdmitsKey (key : Bytes) : FormatVersion → Prop
  | legacy => 32 ≤ key.length
  | modern => key.length = 32

instance (key : Bytes) (version : FormatVersion) : Decidable (version.AdmitsKey key) :=
  match version with
  | .legacy => inferInstanceAs (Decidable (32 ≤ key.length))
  | .modern => inferInstanceAs (Decidable (key.length = 32))

namespace LegacyEnvelope

variable {key ciphertext : Bytes} {mac : Octets 32} {nonce : Octets 16}

/-- What the cipher of an envelope is given. -/
def cipherRequest (key : Bytes) (nonce : Octets 16) (ciphertext : Bytes) : Cbc.Request :=
  ⟨(Keys.derive key nonce).cipherKey.toBytes, (Keys.derive key nonce).vector, ciphertext⟩

/-- The derived key and vector have the lengths that the cipher asks for, so it refuses nothing but
the ciphertext. -/
theorem cipher_eq_error_iff {e : CryptoError} :
    Cbc.decrypt (Keys.derive key nonce).cipherKey.toBytes (Keys.derive key nonce).vector
        ciphertext = .error e ↔
      Cbc.FailsFirst (cipherRequest key nonce ciphertext) [.blocks, .padding] e := by
  have size : Cbc.Stage.vector.Passes (cipherRequest key nonce ciphertext) :=
    length_vector key nonce
  have admitted : Cbc.Stage.key.Passes (cipherRequest key nonce ciphertext) :=
    .inr (.inr (Octets.length_toBytes _))
  rw [Cbc.decrypt_eq_error_iff, ← cipherRequest, Cbc.failsFirst_iff_judge [],
    Cbc.failsFirst_iff_judge []]
  simp only [Cbc.decryption, Staged.judge_cons, if_pos size, if_pos admitted]

end LegacyEnvelope

namespace ModernEnvelope

variable {key ciphertext : Bytes} {nonce : Octets 12} {tag : Octets 16}

theorem reveal_of_ne (h : key.length ≠ 32) :
    reveal key nonce tag ciphertext = .error (.invalidKeyLength 32 key.length) := by
  have refused : cipher key = .error (.invalidKeyLength 32 key.length) := if_neg h
  rw [reveal, refused]
  rfl

theorem reveal_of_schedule {keys : Aes.KeySchedule} (h : key.length = 32)
    (scheduled : Aes.KeySchedule.ofKey? key = some keys) :
    reveal key nonce tag ciphertext =
      if ciphertext.length ≤ Gcm.maxCiphertextLength ∧
          tag = Gcm.tag keys.encrypt nonce ciphertext then
        .ok (Gcm.crypt keys.encrypt nonce ciphertext)
      else .error (.authenticationFailed "AEAD tag mismatch") := by
  have block : cipher key = .ok keys.encrypt := by
    rw [cipher, if_pos (show key.length = keyLength from h), scheduled]
  rw [reveal, block]
  simp only [bind, Except.bind, Gcm.decrypt?]
  by_cases short : ciphertext.length ≤ Gcm.maxCiphertextLength
  · rw [if_neg (Nat.not_lt.mpr short)]
    by_cases same : tag = Gcm.tag keys.encrypt nonce ciphertext
    · rw [if_pos same, if_pos ⟨short, same⟩]
      rfl
    · rw [if_neg same, if_neg (not_and_of_not_right _ same)]
      rfl
  · rw [if_pos (Nat.not_le.mp short), if_neg (not_and_of_not_left _ short)]
    rfl

end ModernEnvelope

namespace Envelope

variable {key b : Bytes} {e : CryptoError} {version : FormatVersion}

/-! ### Stages -/

/-- The code of the envelope is that of its ciphertext under the key derived from its nonce, or its
tag is that of its ciphertext under the key. A modern ciphertext over the limit has no tag. -/
def IsAuthentic (key : Bytes) : Envelope → Prop
  | legacy mac nonce ciphertext =>
    mac = hmac (LegacyEnvelope.Keys.derive key nonce).macKey.toBytes ciphertext
  | modern nonce tag ciphertext =>
    ciphertext.length ≤ Gcm.maxCiphertextLength ∧
      ∃ keys, Aes.KeySchedule.ofKey? key = some keys ∧ tag = Gcm.tag keys.encrypt nonce ciphertext

/-- The error for an envelope that is not authentic. -/
def mismatch : Envelope → CryptoError
  | legacy .. => .authenticationFailed "MAC mismatch"
  | modern .. => .authenticationFailed "AEAD tag mismatch"

/-- An envelope is refused under a key for the first of its stages that fails. -/
inductive FailsWith (key : Bytes) : Bytes → CryptoError → Prop
  /-- There is no format byte. -/
  | empty : FailsWith key [] (.malformed "empty envelope")
  /-- The format byte is unknown, whatever follows. -/
  | format {first : UInt8} {rest : Bytes} (notLegacy : first ≠ 1) (notModern : first ≠ 2) :
    FailsWith key (first :: rest) (.unsupportedCipher 2 first)
  /-- The header is not complete. -/
  | header (version : FormatVersion) {b : Bytes} (announced : b.head? = some version.toByte)
      (short : b.length < version.headerLength) :
    FailsWith key b (.malformed
      s!"{version.name} envelope needs at least {version.headerLength} bytes, got {b.length}")
  /-- The key does not have a length for the format. -/
  | keyLength {x : Envelope} (other : ¬ x.version.AdmitsKey key) :
    FailsWith key x.encode (.invalidKeyLength 32 key.length)
  /-- The tag or code is another. -/
  | code {x : Envelope} (admitted : x.version.AdmitsKey key) (other : ¬ x.IsAuthentic key) :
    FailsWith key x.encode x.mismatch
  /-- A legacy envelope with the right code has a ciphertext that does not consist of blocks or does
  not end in padding. -/
  | ciphertext {mac : Octets 32} {nonce : Octets 16} {ciphertext : Bytes} {e : CryptoError}
      (admitted : FormatVersion.legacy.AdmitsKey key)
      (authentic : (legacy mac nonce ciphertext).IsAuthentic key)
      (fails : Cbc.FailsFirst (LegacyEnvelope.cipherRequest key nonce ciphertext)
        [.blocks, .padding] e) :
    FailsWith key (legacy mac nonce ciphertext).encode e

/-! ### What is read -/

theorem decrypt_of_not_admitsKey {x : Envelope} (h : ¬ x.version.AdmitsKey key) :
    decrypt x.encode key = .error (.invalidKeyLength 32 key.length) := by
  rw [decrypt_encode]
  cases x with
  | legacy mac nonce ciphertext => exact LegacyEnvelope.reveal_of_lt (Nat.not_le.mp h)
  | modern nonce tag ciphertext => exact ModernEnvelope.reveal_of_ne h

theorem decrypt_of_not_isAuthentic {x : Envelope} (admitted : x.version.AdmitsKey key)
    (h : ¬ x.IsAuthentic key) : decrypt x.encode key = .error x.mismatch := by
  rw [decrypt_encode]
  cases x with
  | legacy mac nonce ciphertext => exact (LegacyEnvelope.reveal_of_le admitted).trans (if_neg h)
  | modern nonce tag ciphertext =>
    obtain ⟨keys, scheduled⟩ := Aes.KeySchedule.exists_ofKey? (.inr (.inr admitted))
    refine (ModernEnvelope.reveal_of_schedule admitted scheduled).trans (if_neg ?_)
    rintro ⟨short, tagged⟩
    exact h ⟨short, keys, scheduled, tagged⟩

/-- An authentic legacy envelope is left to the cipher. -/
theorem decrypt_of_legacy_isAuthentic {mac : Octets 32} {nonce : Octets 16} {ciphertext : Bytes}
    (admitted : FormatVersion.legacy.AdmitsKey key)
    (authentic : (legacy mac nonce ciphertext).IsAuthentic key) :
    decrypt (legacy mac nonce ciphertext).encode key =
      Cbc.decrypt (LegacyEnvelope.Keys.derive key nonce).cipherKey.toBytes
        (LegacyEnvelope.Keys.derive key nonce).vector ciphertext := by
  rw [decrypt_encode]
  exact (LegacyEnvelope.reveal_of_le admitted).trans (if_pos authentic)

/-- An authentic modern envelope is decrypted. -/
theorem exists_decrypt_of_modern_isAuthentic {nonce : Octets 12} {tag : Octets 16}
    {ciphertext : Bytes} (admitted : FormatVersion.modern.AdmitsKey key)
    (authentic : (modern nonce tag ciphertext).IsAuthentic key) :
    ∃ plaintext, decrypt (modern nonce tag ciphertext).encode key = .ok plaintext := by
  obtain ⟨short, keys, scheduled, tagged⟩ := authentic
  refine ⟨Gcm.crypt keys.encrypt nonce ciphertext, ?_⟩
  rw [decrypt_encode]
  exact (ModernEnvelope.reveal_of_schedule admitted scheduled).trans (if_pos ⟨short, tagged⟩)

/-! ### What cannot be read -/

theorem parse_of_unknown {first : UInt8} {rest : Bytes} (notLegacy : first ≠ 1)
    (notModern : first ≠ 2) : parse (first :: rest) = .error (.unsupportedCipher 2 first) := by
  have unknown : FormatVersion.ofByte? first = none := by
    rw [FormatVersion.ofByte?, if_neg notLegacy, if_neg notModern]
  rw [parse, unknown]
  rfl

theorem splitHeader?_of_lt {m n : Nat} (h : b.length < m + n) : splitHeader? m n b = none := by
  rw [Option.eq_none_iff_forall_ne_some]
  rintro ⟨x, y, rest⟩ parts
  rw [eq_append_of_splitHeader? parts] at h
  simp only [List.length_append, Octets.length_toBytes] at h
  omega

theorem parse_of_short (announced : b.head? = some version.toByte)
    (short : b.length < version.headerLength) : parse b = .error (truncated version b.length) := by
  obtain ⟨rest, rfl⟩ := List.head?_eq_some_iff.mp announced
  cases version with
  | legacy =>
    have format : FormatVersion.ofByte? FormatVersion.legacy.toByte = some .legacy := rfl
    have missing : splitHeader? 32 16 rest = none :=
      splitHeader?_of_lt (Nat.lt_of_succ_lt_succ short)
    simp only [parse, format, missing, List.length_cons]
  | modern =>
    have format : FormatVersion.ofByte? FormatVersion.modern.toByte = some .modern := rfl
    have missing : splitHeader? 12 16 rest = none :=
      splitHeader?_of_lt (Nat.lt_of_succ_lt_succ short)
    simp only [parse, format, missing, List.length_cons]

theorem decrypt_of_parse_error (h : parse b = .error e) : decrypt b key = .error e := by
  rw [decrypt, h]
  rfl

/-- What is not read has no format byte, an unknown one, or no whole header. -/
theorem failsWith_of_parse_error (key : Bytes) (h : parse b = .error e) : FailsWith key b e := by
  cases b with
  | nil =>
    cases h
    exact .empty
  | cons first rest =>
    by_cases known : ∃ version : FormatVersion, first = version.toByte
    · obtain ⟨version, rfl⟩ := known
      have announced : (version.toByte :: rest).head? = some version.toByte := rfl
      by_cases long : version.headerLength ≤ (version.toByte :: rest).length
      · obtain ⟨x, -, written⟩ := isComplete_iff.mp ⟨announced, long⟩
        rw [← written, parse_encode] at h
        cases h
      · have short := Nat.not_le.mp long
        rw [parse_of_short announced short] at h
        cases h
        exact .header _ announced short
    · have notLegacy : first ≠ 1 := fun same => known ⟨.legacy, same⟩
      have notModern : first ≠ 2 := fun same => known ⟨.modern, same⟩
      rw [parse_of_unknown notLegacy notModern] at h
      cases h
      exact .format notLegacy notModern

/-! ### The error of the first stage that fails -/

theorem failsWith_of_decrypt_encode {x : Envelope} (h : decrypt x.encode key = .error e) :
    FailsWith key x.encode e := by
  by_cases admitted : x.version.AdmitsKey key
  · by_cases authentic : x.IsAuthentic key
    · cases x with
      | legacy mac nonce ciphertext =>
        rw [decrypt_of_legacy_isAuthentic admitted authentic] at h
        exact .ciphertext admitted authentic (LegacyEnvelope.cipher_eq_error_iff.mp h)
      | modern nonce tag ciphertext =>
        obtain ⟨plaintext, decrypted⟩ := exists_decrypt_of_modern_isAuthentic admitted authentic
        rw [decrypted] at h
        cases h
    · rw [decrypt_of_not_isAuthentic admitted authentic] at h
      cases h
      exact .code admitted authentic
  · rw [decrypt_of_not_admitsKey admitted] at h
    cases h
    exact .keyLength admitted

/-- An envelope is refused for the first of its stages that fails. -/
theorem decrypt_eq_error_iff : decrypt b key = .error e ↔ FailsWith key b e := by
  constructor
  · intro refused
    cases parsed : parse b with
    | error e' =>
      rw [decrypt_of_parse_error parsed] at refused
      cases refused
      exact failsWith_of_parse_error key parsed
    | ok x =>
      obtain rfl := encode_of_parse parsed
      exact failsWith_of_decrypt_encode refused
  · intro fails
    cases fails with
    | empty => rfl
    | format notLegacy notModern =>
      exact decrypt_of_parse_error (parse_of_unknown notLegacy notModern)
    | header version announced short => exact decrypt_of_parse_error (parse_of_short announced short)
    | keyLength other => exact decrypt_of_not_admitsKey other
    | code admitted other => exact decrypt_of_not_isAuthentic admitted other
    | ciphertext admitted authentic fails =>
      rw [decrypt_of_legacy_isAuthentic admitted authentic]
      exact LegacyEnvelope.cipher_eq_error_iff.mpr fails

/-- The key is at fault exactly if the header is complete and its format does not admit the key. -/
theorem exists_invalidKeyLength_iff :
    (∃ expected actual, decrypt b key = .error (.invalidKeyLength expected actual)) ↔
      ∃ version, IsComplete version b ∧ ¬ version.AdmitsKey key := by
  constructor
  · rintro ⟨expected, actual, refused⟩
    have fails := decrypt_eq_error_iff.mp refused
    generalize fault : CryptoError.invalidKeyLength expected actual = e at fails
    cases fails with
    | empty | format _ _ | header => cases fault
    | @keyLength x other => exact ⟨x.version, isComplete_encode x, other⟩
    | @code x _ _ => cases x <;> cases fault
    | ciphertext _ _ fails =>
      obtain ⟨reason, rfl⟩ := Cbc.exists_reason_of_failsFirst fails (by decide)
      cases fault
  · rintro ⟨version, complete, other⟩
    obtain ⟨x, rfl, rfl⟩ := isComplete_iff.mp complete
    exact ⟨32, key.length, decrypt_of_not_admitsKey other⟩

/-! ### Readers of one format -/

/-- A modern reader refuses whole legacy envelopes and is no different in anything else. -/
theorem modernDecrypt_eq (b key : Bytes) :
    ModernEnvelope.decrypt b key =
      if IsComplete .legacy b then .error (.unsupportedCipher 2 1) else decrypt b key := by
  split
  · rename_i complete
    obtain ⟨x, version, rfl⟩ := isComplete_iff.mp complete
    rw [ModernEnvelope.decrypt, parse_encode]
    cases x with
    | legacy mac nonce ciphertext => rfl
    | modern nonce tag ciphertext => cases version
  · rename_i other
    unfold ModernEnvelope.decrypt decrypt
    cases parsed : parse b with
    | error e => rfl
    | ok x =>
      cases x with
      | legacy mac nonce ciphertext =>
        exact absurd (isComplete_iff.mpr ⟨_, rfl, encode_of_parse parsed⟩) other
      | modern nonce tag ciphertext => rfl

/-- A legacy reader refuses whole modern envelopes and is no different in anything else. -/
theorem legacyDecrypt_eq (b key : Bytes) :
    LegacyEnvelope.decrypt b key =
      if IsComplete .modern b then .error (.unsupportedCipher 1 2) else decrypt b key := by
  split
  · rename_i complete
    obtain ⟨x, version, rfl⟩ := isComplete_iff.mp complete
    rw [LegacyEnvelope.decrypt, parse_encode]
    cases x with
    | legacy mac nonce ciphertext => cases version
    | modern nonce tag ciphertext => rfl
  · rename_i other
    unfold LegacyEnvelope.decrypt decrypt
    cases parsed : parse b with
    | error e => rfl
    | ok x =>
      cases x with
      | legacy mac nonce ciphertext => rfl
      | modern nonce tag ciphertext =>
        exact absurd (isComplete_iff.mpr ⟨_, rfl, encode_of_parse parsed⟩) other

/-- **Refusals are staged.** For every byte string and key, an envelope is refused exactly for the
first of its stages that fails. The key is at fault exactly if the header is complete and its format
does not admit the key. A legacy envelope with another code gets one answer, whatever its
ciphertext. A reader of one format answers as the reader of both does, unless there is the whole
header of the other format, which it refuses whatever the key. -/
theorem refusals_are_staged (b key : Bytes) :
    (∀ e, decrypt b key = .error e ↔ FailsWith key b e) ∧
    ((∃ expected actual, decrypt b key = .error (.invalidKeyLength expected actual)) ↔
      IsComplete .legacy b ∧ key.length < 32 ∨ IsComplete .modern b ∧ key.length ≠ 32) ∧
    (∀ mac nonce ciphertext, (legacy mac nonce ciphertext).encode = b → 32 ≤ key.length →
      mac ≠ hmac (LegacyEnvelope.Keys.derive key nonce).macKey.toBytes ciphertext →
      decrypt b key = .error (.authenticationFailed "MAC mismatch")) ∧
    ModernEnvelope.decrypt b key =
      (if IsComplete .legacy b then .error (.unsupportedCipher 2 1) else decrypt b key) ∧
    LegacyEnvelope.decrypt b key =
      (if IsComplete .modern b then .error (.unsupportedCipher 1 2) else decrypt b key) := by
  refine ⟨fun e => decrypt_eq_error_iff, ?_, ?_, modernDecrypt_eq b key, legacyDecrypt_eq b key⟩
  · rw [exists_invalidKeyLength_iff]
    constructor
    · rintro ⟨version, complete, other⟩
      cases version with
      | legacy => exact .inl ⟨complete, Nat.not_le.mp other⟩
      | modern => exact .inr ⟨complete, other⟩
    · rintro (⟨complete, short⟩ | ⟨complete, other⟩)
      · exact ⟨.legacy, complete, Nat.not_le.mpr short⟩
      · exact ⟨.modern, complete, other⟩
  · rintro mac nonce ciphertext rfl long other
    exact decrypt_of_not_isAuthentic (x := legacy mac nonce ciphertext) long other

/-- Forty-nine bytes with the format byte of the legacy format: without a key the key is at fault,
which a modern reader does not even look at. Under a long key all codes but one get the same answer,
and one byte less is refused under every key. -/
theorem legacy_header_is_staged :
    decrypt (1 :: List.replicate 48 0) [] = .error (.invalidKeyLength 32 0) ∧
    ModernEnvelope.decrypt (1 :: List.replicate 48 0) [] = .error (.unsupportedCipher 2 1) ∧
    (∃ mac : Octets 32, decrypt (legacy mac (Octets.zero 16) []).encode (List.replicate 32 7) =
      .error (.authenticationFailed "MAC mismatch")) ∧
    decrypt (1 :: List.replicate 47 0) [] =
      .error (.malformed "Legacy envelope needs at least 49 bytes, got 48") := by
  refine ⟨?_, ?_, ?_, ?_⟩
  · obtain ⟨staged, -⟩ := refusals_are_staged (1 :: List.replicate 48 0) []
    exact (staged _).mpr
      (.keyLength (x := legacy (Octets.zero 32) (Octets.zero 16) []) (by decide))
  · obtain ⟨-, -, -, modern, -⟩ := refusals_are_staged (1 :: List.replicate 48 0) []
    exact modern.trans (if_pos (by decide))
  · obtain ⟨mac, other⟩ : ∃ mac : Octets 32, mac ≠ hmac (LegacyEnvelope.Keys.derive
        (List.replicate 32 7) (Octets.zero 16)).macKey.toBytes [] := by
      -- of two codes one is not the right one
      by_cases zero : Octets.zero 32 = hmac (LegacyEnvelope.Keys.derive
        (List.replicate 32 7) (Octets.zero 16)).macKey.toBytes []
      · refine ⟨⟨List.replicate 32 1, rfl⟩, ?_⟩
        rw [← zero]
        decide
      · exact ⟨_, zero⟩
    obtain ⟨-, -, forged, -⟩ := refusals_are_staged (legacy mac (Octets.zero 16) []).encode
      (List.replicate 32 7)
    exact ⟨mac, forged mac (Octets.zero 16) [] rfl (by decide) other⟩
  · obtain ⟨staged, -⟩ := refusals_are_staged (1 :: List.replicate 47 0) []
    exact (staged _).mpr (.header .legacy rfl (by decide))

end Envelope

end SealedLink
