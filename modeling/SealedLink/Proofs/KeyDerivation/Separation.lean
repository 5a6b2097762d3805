import Mathlib.Data.List.Nodup
import SealedLink.Envelope.Legacy
import SealedLink.Proofs.KeyDerivation
import SealedLink.SharedSecretLink

/-!
# Derivations are kept apart by their labels

An information string is a label with a nonce right behind it, and nothing tells where the label
ends. Two labels can give the same string exactly if one of them extends the other. No label of a
purpose extends that of another, so an information string determines the purpose and the nonce,
whatever the nonces are. What is derived under one secret therefore never goes through the same
string twice: not within a message, not for two messages, and not for links and envelopes.

## Main definitions

* `KeyDerivation.Derivation` — a purpose and a nonce of its size, with information string and key
* `KeyDerivation.Message`, `Message.derivations` — what is derived for a link and for an envelope

## Main results

* `KeyDerivation.exists_domainInfo_eq_iff` — the labels that nonces can confuse
* `KeyDerivation.domainInfo_label_eq_iff` — no nonces confuse two purposes
* `KeyDerivation.nodup_flatMap_infos_iff` — no string occurs twice among those of different messages
* `KeyDerivation.info_determines_purpose_and_nonce` — both, for the keys of links and envelopes
-/

namespace SealedLink.KeyDerivation

/-! ### Labels -/

/-- Two labels can give the same information string exactly if one of them extends the other. -/
theorem exists_domainInfo_eq_iff {l l' : String} :
    (∃ x y, domainInfo l x = domainInfo l' y) ↔
      Text.utf8 l <+: Text.utf8 l' ∨ Text.utf8 l' <+: Text.utf8 l := by
  constructor
  · rintro ⟨x, y, same⟩
    have front : Text.utf8 l <+: domainInfo l' y := ⟨x, same⟩
    exact List.prefix_or_prefix_of_prefix front (List.prefix_append _ _)
  · rintro (⟨more, longer⟩ | ⟨more, longer⟩)
    · refine ⟨more, [], ?_⟩
      rw [domainInfo, domainInfo, longer, List.append_nil]
    · refine ⟨[], more, ?_⟩
      rw [domainInfo, domainInfo, longer, List.append_nil]

/-- A nonce can begin with the characters by which a longer label goes on. -/
example : domainInfo "cipher" (Text.utf8 "key0123") = domainInfo "cipherkey" (Text.utf8 "0123") := by
  decide

namespace Purpose

/-- No label of a purpose extends that of another. -/
theorem eq_of_label_prefix {p q : Purpose} (h : Text.utf8 p.label <+: Text.utf8 q.label) :
    p = q := by
  revert h
  cases p <;> cases q <;> decide

theorem label_injective : Function.Injective label := by
  intro p q same
  exact eq_of_label_prefix (same ▸ List.prefix_rfl)

end Purpose

/-- No nonces, of whatever sizes, confuse two purposes. -/
theorem domainInfo_label_eq_iff {p q : Purpose} {x y : Bytes} :
    domainInfo p.label x = domainInfo q.label y ↔ p = q ∧ x = y := by
  constructor
  · intro same
    -- both labels stand at the front of one string, so the shorter begins the longer
    have purpose : p = q := by
      rcases exists_domainInfo_eq_iff.mp ⟨x, y, same⟩ with shorter | longer
      · exact Purpose.eq_of_label_prefix shorter
      · exact (Purpose.eq_of_label_prefix longer).symm
    subst purpose
    exact ⟨rfl, List.append_cancel_left same⟩
  · rintro ⟨rfl, rfl⟩
    rfl

/-! ### Derivations -/

/-- A purpose and a nonce of its size. -/
structure Derivation where
  /-- What the key is for. -/
  purpose : Purpose
  /-- The nonce of the message. -/
  nonce : Octets purpose.nonceSize
  deriving DecidableEq

namespace Derivation

/-- The information string of a derivation. -/
def info (d : Derivation) : Bytes := domainInfo d.purpose.label d.nonce.toBytes

/-- The key that is derived from a secret. -/
def key (secret : Bytes) (d : Derivation) : Octets 32 :=
  purposeKey secret d.purpose.label d.nonce.toBytes

theorem info_injective : Function.Injective info := by
  rintro ⟨p, x⟩ ⟨q, y⟩ same
  obtain ⟨purpose, bytes⟩ := domainInfo_label_eq_iff.mp same
  cases purpose
  have nonce : x = y := Octets.ext bytes
  rw [nonce]

end Derivation

/-! ### Messages -/

/-- A message whose keys are derived from the secret itself. -/
inductive Message where
  /-- A shared-secret link with its outer nonce. -/
  | link (outerNonce : Octets SharedSecretLink.outerNonceSize)
  /-- A legacy envelope with its nonce. -/
  | envelope (nonce : Octets 16)
  deriving DecidableEq

/-- The message that a derivation belongs to. -/
def Derivation.message : Derivation → Message
  | ⟨.linkCipher, nonce⟩ | ⟨.linkSignature, nonce⟩ => .link nonce
  | ⟨.envelopeCipher, nonce⟩ | ⟨.envelopeVector, nonce⟩ | ⟨.envelopeMac, nonce⟩ => .envelope nonce

namespace Message

/-- The derivations for a message. -/
def derivations : Message → List Derivation
  | link nonce => [⟨.linkCipher, nonce⟩, ⟨.linkSignature, nonce⟩]
  | envelope nonce => [⟨.envelopeVector, nonce⟩, ⟨.envelopeCipher, nonce⟩, ⟨.envelopeMac, nonce⟩]

/-- The information strings that go into the derivations for a message. -/
def infos (m : Message) : List Bytes := m.derivations.map Derivation.info

/-- A derivation is made for one message only. -/
theorem mem_derivations_iff {m : Message} {d : Derivation} :
    d ∈ m.derivations ↔ d.message = m := by
  constructor
  · intro member
    cases m with
    | link nonce =>
      simp only [derivations, List.mem_cons, List.not_mem_nil, or_false] at member
      rcases member with rfl | rfl <;> rfl
    | envelope nonce =>
      simp only [derivations, List.mem_cons, List.not_mem_nil, or_false] at member
      rcases member with rfl | rfl | rfl <;> rfl
  · rintro rfl
    obtain ⟨purpose, nonce⟩ := d
    cases purpose <;> simp [derivations, Derivation.message]

theorem exists_derivation (m : Message) : ∃ d, d ∈ m.derivations := by
  cases m <;> exact ⟨_, List.mem_cons_self⟩

/-- The derivations for a message have different purposes. -/
theorem nodup_derivations (m : Message) : m.derivations.Nodup := by
  have purposes : (m.derivations.map Derivation.purpose).Nodup := by
    cases m <;> simp [derivations]
  exact purposes.of_map

end Message

/-- Derivations are repeated exactly where a message is. -/
theorem nodup_flatMap_derivations_iff {messages : List Message} :
    (messages.flatMap Message.derivations).Nodup ↔ messages.Nodup := by
  rw [List.nodup_flatMap]
  constructor
  · rintro ⟨-, apart⟩
    refine apart.imp ?_
    rintro m m' disjoint rfl
    -- a message has some derivation, which would be in two lists that share none
    obtain ⟨d, own⟩ := m.exists_derivation
    exact disjoint own own
  · intro different
    refine ⟨fun m _ => m.nodup_derivations, different.imp ?_⟩
    intro m m' other d here there
    rw [Message.mem_derivations_iff] at here there
    exact other (here.symm.trans there)

/-- No information string is used twice, for one message or for two that differ. -/
theorem nodup_flatMap_infos_iff {messages : List Message} :
    (messages.flatMap Message.infos).Nodup ↔ messages.Nodup := by
  have strings : messages.flatMap Message.infos =
      (messages.flatMap Message.derivations).map Derivation.info := List.map_flatMap.symm
  rw [strings, List.nodup_map_iff Derivation.info_injective, nodup_flatMap_derivations_iff]

/-! ### Keys -/

/-- A key is derived from the secret and the information string alone. -/
theorem deriveKey_info (secret : Bytes) (d : Derivation) :
    deriveKey secret 32 d.info = .ok (d.key secret).toBytes :=
  deriveKey_domainInfo secret d.purpose.label d.nonce.toBytes

/-- **Domain separation.** An information string determines the label and the nonce, and the label
its purpose. Among the strings for any links and envelopes, under one secret, none occurs twice
unless a message does. The keys of links and envelopes are derived from these strings and from
nothing else but the secret. -/
theorem info_determines_purpose_and_nonce :
    (∀ d d' : Derivation, d.info = d'.info ↔
      d.purpose.label = d'.purpose.label ∧ d.nonce.toBytes = d'.nonce.toBytes) ∧
    (∀ p q : Purpose, p.label = q.label ↔ p = q) ∧
    (∀ messages : List Message, (messages.flatMap Message.infos).Nodup ↔ messages.Nodup) ∧
    ∀ secret,
      (∀ d : Derivation, deriveKey secret 32 d.info = .ok (d.key secret).toBytes) ∧
      (∀ nonce, SharedSecretLink.Keys.derive secret nonce =
        { cipherKey := Derivation.key secret ⟨.linkCipher, nonce⟩
          signatureKey := Derivation.key secret ⟨.linkSignature, nonce⟩ }) ∧
      ∀ nonce, LegacyEnvelope.Keys.derive secret nonce =
        { cipherKey := Derivation.key secret ⟨.envelopeCipher, nonce⟩
          vector := (Derivation.key secret ⟨.envelopeVector, nonce⟩).toBytes.take 16
          macKey := Derivation.key secret ⟨.envelopeMac, nonce⟩ } := by
  refine ⟨?_, fun p q => Purpose.label_injective.eq_iff, fun _ => nodup_flatMap_infos_iff,
    fun secret => ⟨deriveKey_info secret, fun _ => rfl, fun _ => rfl⟩⟩
  intro d d'
  rw [Purpose.label_injective.eq_iff]
  exact domainInfo_label_eq_iff

end SealedLink.KeyDerivation
