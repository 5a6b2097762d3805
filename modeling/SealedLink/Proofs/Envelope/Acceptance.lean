import SealedLink.Proofs.Envelope.Legacy
import SealedLink.Proofs.Envelope.Modern

/-!
# Readers of envelopes accept exactly what writers produce

Nothing in an envelope is free: the format byte and the nonce are those of the writer, the tag or
code is computed from the ciphertext, and the ciphertext is the one encryption of its plaintext. So
an envelope decrypts to a plaintext under a key exactly if a writer produces it from the two, and no
other tag or code on the same ciphertext is accepted.

## Main definitions

* `ModernEnvelope.Seals`, `LegacyEnvelope.Seals` — an envelope is produced by the writer of a format
* `Envelope.WithinLimit` — a modern ciphertext is no longer than a plaintext may be
* `Envelope.OtherCode` — two envelopes differ in their tag or code only

## Main results

* `Envelope.OtherCode.not_both_decrypt` — of two envelopes that differ in their code one is refused
* `Envelope.decrypt_iff_sealed` — the three readers accept exactly what the writers produce
-/

namespace SealedLink

/-! ### Modern envelopes -/

namespace ModernEnvelope

variable {key plaintext envelope : Bytes}

/-- The modern writer produces an envelope from a key, a plaintext and some nonce. -/
def Seals (key plaintext envelope : Bytes) : Prop :=
  key.length = keyLength ∧ ∃ nonce, encrypt plaintext key nonce = .ok envelope

theorem seals_iff :
    Seals key plaintext envelope ↔ ∃ nonce, encrypt plaintext key nonce = .ok envelope := by
  constructor
  · rintro ⟨-, produced⟩
    exact produced
  · rintro ⟨nonce, produced⟩
    obtain ⟨f, block, -, -⟩ := encrypt_eq_ok_iff.mp produced
    exact ⟨length_of_cipher block, nonce, produced⟩

theorem Seals.exists_parts (h : Seals key plaintext envelope) :
    ∃ nonce tag ciphertext, (Envelope.modern nonce tag ciphertext).encode = envelope ∧
      encrypt plaintext key nonce = .ok (Envelope.modern nonce tag ciphertext).encode := by
  obtain ⟨nonce, produced⟩ := seals_iff.mp h
  obtain ⟨f, -, -, written⟩ := encrypt_eq_ok_iff.mp produced
  rw [← written] at produced
  exact ⟨nonce, _, _, written, produced⟩

end ModernEnvelope

/-! ### Legacy envelopes -/

namespace LegacyEnvelope

variable {key plaintext envelope : Bytes}

/-- The legacy writer produces an envelope from a key, a plaintext and some nonce. -/
def Seals (key plaintext envelope : Bytes) : Prop :=
  minKeyLength ≤ key.length ∧ ∃ nonce, encrypt plaintext key nonce = .ok envelope

theorem seals_iff :
    Seals key plaintext envelope ↔ ∃ nonce, encrypt plaintext key nonce = .ok envelope := by
  constructor
  · rintro ⟨-, produced⟩
    exact produced
  · rintro ⟨nonce, produced⟩
    exact ⟨(encrypt_eq_ok_iff.mp produced).1, nonce, produced⟩

theorem Seals.exists_parts (h : Seals key plaintext envelope) :
    ∃ mac nonce ciphertext, (Envelope.legacy mac nonce ciphertext).encode = envelope ∧
      encrypt plaintext key nonce = .ok (Envelope.legacy mac nonce ciphertext).encode := by
  obtain ⟨nonce, produced⟩ := seals_iff.mp h
  obtain ⟨-, ciphertext, -, written⟩ := encrypt_eq_ok_iff.mp produced
  rw [← written] at produced
  exact ⟨_, nonce, ciphertext, written, produced⟩

end LegacyEnvelope

/-! ### Readers -/

namespace Envelope

variable {key plaintext envelope : Bytes}

/-- The ciphertext of a modern envelope is no longer than a plaintext may be. A legacy envelope has
no limit. -/
def WithinLimit (envelope : Bytes) : Prop :=
  ∀ nonce tag ciphertext, parse envelope = .ok (.modern nonce tag ciphertext) →
    ciphertext.length ≤ Gcm.maxPlaintextLength

theorem decrypt_eq_ok_iff :
    decrypt envelope key = .ok plaintext ↔
      ModernEnvelope.decrypt envelope key = .ok plaintext ∨
        LegacyEnvelope.decrypt envelope key = .ok plaintext := by
  unfold decrypt ModernEnvelope.decrypt LegacyEnvelope.decrypt
  cases parse envelope with
  | error e => simp [bind, Except.bind]
  | ok parts => cases parts <;> simp [bind, Except.bind, throw, throwThe, MonadExceptOf.throw]

theorem modernDecrypt_eq_ok_iff :
    ModernEnvelope.decrypt envelope key = .ok plaintext ↔
      ∃ nonce tag ciphertext, (modern nonce tag ciphertext).encode = envelope ∧
        ModernEnvelope.reveal key nonce tag ciphertext = .ok plaintext := by
  simp only [← parse_eq_ok_iff]
  unfold ModernEnvelope.decrypt
  cases parse envelope with
  | error e => simp [bind, Except.bind]
  | ok parts =>
    cases parts <;> simp [bind, Except.bind, throw, throwThe, MonadExceptOf.throw, and_assoc]

theorem legacyDecrypt_eq_ok_iff :
    LegacyEnvelope.decrypt envelope key = .ok plaintext ↔
      ∃ mac nonce ciphertext, (legacy mac nonce ciphertext).encode = envelope ∧
        LegacyEnvelope.reveal key mac nonce ciphertext = .ok plaintext := by
  simp only [← parse_eq_ok_iff]
  unfold LegacyEnvelope.decrypt
  cases parse envelope with
  | error e => simp [bind, Except.bind]
  | ok parts =>
    cases parts <;> simp [bind, Except.bind, throw, throwThe, MonadExceptOf.throw, and_assoc]

theorem decrypt_of_seals (h : ModernEnvelope.Seals key plaintext envelope) :
    ModernEnvelope.decrypt envelope key = .ok plaintext := by
  obtain ⟨nonce, tag, ciphertext, written, produced⟩ := h.exists_parts
  exact modernDecrypt_eq_ok_iff.mpr
    ⟨nonce, tag, ciphertext, written, ModernEnvelope.reveal_of_encrypt produced⟩

theorem modernDecrypt_iff_seals (within : WithinLimit envelope) :
    ModernEnvelope.decrypt envelope key = .ok plaintext ↔
      ModernEnvelope.Seals key plaintext envelope := by
  constructor
  · intro decrypted
    obtain ⟨nonce, tag, ciphertext, rfl, revealed⟩ := modernDecrypt_eq_ok_iff.mp decrypted
    have short := within nonce tag ciphertext (parse_encode _)
    have produced := (ModernEnvelope.reveal_iff_encrypt short).mp revealed
    exact ModernEnvelope.seals_iff.mpr ⟨nonce, produced⟩
  · exact decrypt_of_seals

theorem legacyDecrypt_iff_seals :
    LegacyEnvelope.decrypt envelope key = .ok plaintext ↔
      LegacyEnvelope.Seals key plaintext envelope := by
  constructor
  · intro decrypted
    obtain ⟨mac, nonce, ciphertext, rfl, revealed⟩ := legacyDecrypt_eq_ok_iff.mp decrypted
    exact LegacyEnvelope.seals_iff.mpr ⟨nonce, LegacyEnvelope.reveal_iff_encrypt.mp revealed⟩
  · intro produced
    obtain ⟨mac, nonce, ciphertext, written, encrypted⟩ := produced.exists_parts
    exact legacyDecrypt_eq_ok_iff.mpr
      ⟨mac, nonce, ciphertext, written, LegacyEnvelope.reveal_iff_encrypt.mpr encrypted⟩

/-- A written modern ciphertext is as long as its plaintext, which the writer has measured. -/
theorem withinLimit_of_seals (h : ModernEnvelope.Seals key plaintext envelope) :
    WithinLimit envelope := by
  obtain ⟨nonce, tag, ciphertext, rfl, produced⟩ := h.exists_parts
  intro nonce' tag' ciphertext' parsed
  rw [parse_encode] at parsed
  cases parsed
  obtain ⟨f, -, fits, same⟩ := ModernEnvelope.encrypt_eq_encode_iff.mp produced
  have length := ModernEnvelope.length_encrypt f nonce plaintext
  rw [same] at length
  rw [length]
  exact fits

theorem withinLimit_of_legacySeals (h : LegacyEnvelope.Seals key plaintext envelope) :
    WithinLimit envelope := by
  obtain ⟨mac, nonce, ciphertext, rfl, -⟩ := h.exists_parts
  intro nonce' tag' ciphertext' parsed
  rw [parse_encode] at parsed
  cases parsed

/-! ### Other tags and codes -/

/-- Two envelopes differ in their tag or authentication code, and in nothing else. -/
inductive OtherCode : Envelope → Envelope → Prop
  | modern {nonce : Octets 12} {tag tag' : Octets 16} {ciphertext : Bytes} (other : tag' ≠ tag) :
    OtherCode (.modern nonce tag ciphertext) (.modern nonce tag' ciphertext)
  | legacy {mac mac' : Octets 32} {nonce : Octets 16} {ciphertext : Bytes} (other : mac' ≠ mac) :
    OtherCode (.legacy mac nonce ciphertext) (.legacy mac' nonce ciphertext)

theorem decrypt_encode (x : Envelope) (key : Bytes) :
    decrypt x.encode key =
      match x with
      | .modern nonce tag ciphertext => ModernEnvelope.reveal key nonce tag ciphertext
      | .legacy mac nonce ciphertext => LegacyEnvelope.reveal key mac nonce ciphertext := by
  rw [decrypt, parse_encode]
  rfl

/-- Of two envelopes that differ in their code only one is decrypted under a key. -/
theorem OtherCode.not_both_decrypt {x y : Envelope} (h : OtherCode x y) {plaintext' : Bytes}
    (decrypted : decrypt x.encode key = .ok plaintext) :
    decrypt y.encode key ≠ .ok plaintext' := by
  intro decrypted'
  rw [decrypt_encode] at decrypted decrypted'
  cases h with
  | modern other => exact other (ModernEnvelope.tag_eq_of_reveal decrypted' decrypted)
  | legacy other => exact other (LegacyEnvelope.mac_eq_of_reveal decrypted' decrypted)

/-- No reader decrypts the envelope under the key. -/
def Refused (envelope key : Bytes) : Prop :=
  ∀ plaintext, decrypt envelope key ≠ .ok plaintext ∧
    ModernEnvelope.decrypt envelope key ≠ .ok plaintext ∧
    LegacyEnvelope.decrypt envelope key ≠ .ok plaintext

theorem refused_iff : Refused envelope key ↔ ∀ plaintext, decrypt envelope key ≠ .ok plaintext := by
  refine forall_congr' fun plaintext => ⟨fun refused => refused.1, fun refused => ?_⟩
  -- a reader of one format decrypts no more than the reader of both
  rw [ne_eq, decrypt_eq_ok_iff] at refused
  exact ⟨decrypt_eq_ok_iff.not.mpr refused, not_or.mp refused⟩

/-- **Readers accept exactly what writers produce.** Within the limit of the cipher, an envelope
decrypts to a plaintext under a key exactly if one of the two writers produces it from them; each
reader of one format accepts exactly what the writer of its format produces. If the tag or code of a
produced envelope is replaced, no reader decrypts it any more. -/
theorem decrypt_iff_sealed (within : WithinLimit envelope) :
    (decrypt envelope key = .ok plaintext ↔
      ModernEnvelope.Seals key plaintext envelope ∨ LegacyEnvelope.Seals key plaintext envelope) ∧
    (ModernEnvelope.decrypt envelope key = .ok plaintext ↔
      ModernEnvelope.Seals key plaintext envelope) ∧
    (LegacyEnvelope.decrypt envelope key = .ok plaintext ↔
      LegacyEnvelope.Seals key plaintext envelope) ∧
    ∀ x y, x.encode = envelope → OtherCode x y →
      ModernEnvelope.Seals key plaintext envelope ∨ LegacyEnvelope.Seals key plaintext envelope →
      Refused y.encode key := by
  have either : decrypt envelope key = .ok plaintext ↔
      ModernEnvelope.Seals key plaintext envelope ∨ LegacyEnvelope.Seals key plaintext envelope := by
    rw [decrypt_eq_ok_iff, modernDecrypt_iff_seals within, legacyDecrypt_iff_seals]
  refine ⟨either, modernDecrypt_iff_seals within, legacyDecrypt_iff_seals, ?_⟩
  rintro x y rfl other produced
  rw [refused_iff]
  intro plaintext'
  exact other.not_both_decrypt (either.mpr produced)

/-- Two bytes in an envelope of each format under one key: both are decrypted, and refused once their
tag or code is another. -/
theorem both_formats_accepted :
    ∃ modern legacy,
      ModernEnvelope.encrypt [0x68, 0x69] (List.replicate 32 7) (Octets.zero 12) = .ok modern ∧
      LegacyEnvelope.encrypt [0x68, 0x69] (List.replicate 32 7) (Octets.zero 16) = .ok legacy ∧
      ∀ envelope ∈ [modern, legacy], WithinLimit envelope ∧
        decrypt envelope (List.replicate 32 7) = .ok [0x68, 0x69] ∧
        ∀ x y, x.encode = envelope → OtherCode x y → Refused y.encode (List.replicate 32 7) := by
  have size : (List.replicate 32 (7 : UInt8)).length = 32 := rfl
  have fits : ([0x68, 0x69] : Bytes).length ≤ Gcm.maxPlaintextLength := by decide
  obtain ⟨modern, written, -⟩ := ModernEnvelope.exists_encrypt size fits (Octets.zero 12)
  obtain ⟨legacy, written'⟩ :=
    LegacyEnvelope.exists_encrypt (Nat.le_of_eq size.symm) [0x68, 0x69] (Octets.zero 16)
  have sealed := ModernEnvelope.seals_iff.mpr ⟨_, written⟩
  have sealed' := LegacyEnvelope.seals_iff.mpr ⟨_, written'⟩
  have within := withinLimit_of_seals sealed
  have within' := withinLimit_of_legacySeals sealed'
  refine ⟨modern, legacy, written, written', ?_⟩
  intro envelope member
  simp only [List.mem_cons, List.not_mem_nil, or_false] at member
  rcases member with rfl | rfl
  · obtain ⟨accepted, -, -, refused⟩ := decrypt_iff_sealed within
    refine ⟨within, accepted.mpr (.inl sealed), ?_⟩
    intro x y same other
    exact refused x y same other (.inl sealed)
  · obtain ⟨accepted, -, -, refused⟩ := decrypt_iff_sealed within'
    refine ⟨within', accepted.mpr (.inr sealed'), ?_⟩
    intro x y same other
    exact refused x y same other (.inr sealed')

end Envelope

end SealedLink
