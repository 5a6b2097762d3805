import SealedLink.Proofs.Query
import SealedLink.Proofs.SharedSecretLink.Sealing
import SealedLink.Proofs.Text.Base64

/-!
# A link under a shared secret opens once, while it is fresh

Sealing and opening derive the same keys, since the outer nonce travels in front of the signed
message. What is sealed comes back through every layer: the query field, form coding, base64, the
signature, the envelope and the text. What remains of the decision is the age of the link and the
nonce store.

## Main definitions

* `SharedSecretLink.OpensOnce` — a link opens once while it is fresh, and not at all after that

## Main results

* `SharedSecretLink.runIn_sealQuery` — the query that is sealed
* `SharedSecretLink.opensOnce_of_carries` — the round trip for any kind of store
* `SharedSecretLink.sealQuery_opens_once` — the round trip for the three kinds of store
-/

namespace SealedLink.SharedSecretLink

open RecordStore (records Consistent)

variable {ε : Type} [Environment ε] {env : ε} {secret : Bytes}

/-! ### The query -/

/-- If all requests succeed, the query of a plaintext carries the wire form of its envelope. -/
theorem runIn_sealQuery (draws : Draws env) (key : secret ≠ []) {plaintext : String}
    {envelope : Bytes}
    (encrypted : ModernEnvelope.encrypt (Text.utf8 plaintext) (draws.keys secret).cipherKey.toBytes
      draws.nonce = .ok envelope) :
    (sealQuery plaintext secret).runIn env =
      (.ok (queryOfWire (draws.wire secret envelope)), draws.left) := by
  unfold sealQuery
  rw [Randomized.runIn_bind_of_ok (runIn_sealWire draws key encrypted), Randomized.runIn_pure]

theorem queryOfWire_eq (wire : Bytes) :
    queryOfWire wire = Query.encodePairs [(parameter, Base64.encodeText wire)] := by
  have name : Query.encodeValue parameter = parameter := by decide +kernel
  rw [queryOfWire, Query.encodePairs, List.map_singleton, String.intercalate_singleton]
  simp only [name]

theorem encodeText_ne_empty {wire : Bytes} (h : wire ≠ []) : Base64.encodeText wire ≠ "" := by
  intro empty
  -- the empty text stands for no bytes
  have read := Base64.decodeText_encodeText wire
  rw [empty] at read
  exact h (Except.ok.inj (read.symm.trans (Base64.decodeText_encodeText [])))

/-- The wire form is found in its query, whatever pairs of other names are in front of it. -/
theorem wireOfQuery_embed {wire : Bytes} (h : wire ≠ []) (marked : Bool)
    {before : Option (List (String × String))} (after : Option (List (String × String)))
    (others : ∀ p ∈ before.getD [], p.1 ≠ parameter) :
    wireOfQuery (Query.embed marked before after (queryOfWire wire)) = .ok wire := by
  have found := Query.get?_embed marked after (Base64.encodeText wire) others
  rw [← queryOfWire_eq] at found
  have text : (some (Base64.encodeText wire)).filter (· ≠ "") = some (Base64.encodeText wire) := by
    simp [encodeText_ne_empty h]
  rw [wireOfQuery, found, text]
  simp only [Base64.decodeText_encodeText]

/-! ### Opening -/

/-- While a link is fresh it opens to its plaintext, and a second time it is a replay. When it is
not, it is refused with its age in nanoseconds, and the store is left alone. -/
def OpensOnce {σ : Type} [NonceStore σ] (link : String) (secret : Bytes) (plaintext : String)
    (sealedAt : Timestamp) (s : σ) : Prop :=
  ∀ (maxAge : Duration) (now : Timestamp),
    (now.ticks < sealedAt.ticks ∨ 100 * (now.ticks - sealedAt.ticks) ≤ maxAge.nanos →
      ∃ s', openQuery maxAge now link secret s = (.ok plaintext, s') ∧
        openQuery maxAge now link secret s' = (.error .replay, s')) ∧
    (maxAge.nanos < 100 * (now.ticks - sealedAt.ticks) →
      openQuery maxAge now link secret s =
        (.error (.stale ⟨100 * (now.ticks - sealedAt.ticks)⟩ maxAge), s))

section Opening

variable {σ : Type} [NonceStore σ] {s s' : σ} {maxAge : Duration} {now : Timestamp}
variable {link plaintext : String} {envelope : Bytes} (draws : Draws env)

/-- The keys of the sealing are found again from the outer nonce in front of the signed message. -/
theorem splitWire_wire (secret envelope : Bytes) :
    splitWire (draws.wire secret envelope) =
      .ok (draws.outerNonce, draws.signed secret envelope) := by
  rw [splitWire, Draws.wire, Octets.split?_append]

/-- A link whose signed message is refused does not open. -/
theorem openQuery_of_refused (key : secret ≠ [])
    (carries : wireOfQuery link = .ok (draws.wire secret envelope)) {e : LaunchError}
    (refused : OneTimeSignature.verify maxAge now (draws.signed secret envelope)
      (draws.keys secret).signatureKey.toBytes s = (.error e, s')) :
    openQuery maxAge now link secret s = (.error e, s') := by
  rw [Draws.keys] at refused
  simp only [openQuery, carries, openWire, checkKey_of_ne_nil key, splitWire_wire, refused]

/-- A link whose signed message is accepted opens to what its envelope decrypts to. -/
theorem openQuery_of_accepted (key : secret ≠ [])
    (carries : wireOfQuery link = .ok (draws.wire secret envelope))
    (accepted : OneTimeSignature.verify maxAge now (draws.signed secret envelope)
      (draws.keys secret).signatureKey.toBytes s = (.ok envelope, s'))
    (decrypted : Envelope.decrypt envelope (draws.keys secret).cipherKey.toBytes =
      .ok (Text.utf8 plaintext)) :
    openQuery maxAge now link secret s = (.ok plaintext, s') := by
  rw [Draws.keys] at accepted decrypted
  simp only [openQuery, carries, openWire, checkKey_of_ne_nil key, splitWire_wire, accepted,
    decrypted, LaunchError.ofCrypto, textOfPlaintext, Text.ofUtf8?_utf8]

/-- In every record store that neither holds the nonce nor claims to, a link opens once. -/
theorem opensOnce_of_carries [RecordStore σ] (key : secret ≠ [])
    (carries : wireOfQuery link = .ok (draws.wire secret envelope))
    (decrypted : Envelope.decrypt envelope (draws.keys secret).cipherKey.toBytes =
      .ok (Text.utf8 plaintext))
    (h : Consistent s) (new : draws.signatureNonce ∉ (records s).map NonceRecord.nonce)
    (unseen : NonceStore.contains draws.signatureNonce s = false) :
    OpensOnce link secret plaintext draws.sealedAt s := by
  intro maxAge now
  constructor
  · intro young
    have fresh : (draws.stamped envelope).timestamp.staleAge? now maxAge = none := by
      rw [Timestamp.staleAge?_eq_none_iff, Timestamp.isExpired_eq_false_iff, Nat.mul_comm]
      exact young
    obtain ⟨s', accepted, consistent, left⟩ :=
      OneTimeSignature.verify_signWith_of_fresh h fresh new unseen
    refine ⟨s', openQuery_of_accepted draws key carries accepted decrypted, ?_⟩
    -- the record of the first opening is still there, which makes the second a replay
    have queued : (draws.stamped envelope).nonce ∈ (records s').map NonceRecord.nonce :=
      List.mem_map_of_mem left
    exact openQuery_of_refused draws key carries
      (OneTimeSignature.verify_signWith_of_queued consistent fresh queued)
  · intro old
    have stale : (draws.stamped envelope).timestamp.staleAge? now maxAge =
        some ⟨100 * (now.ticks - draws.sealedAt.ticks)⟩ := by
      -- a limit can only be exceeded by a link from the past
      have past : draws.sealedAt.ticks ≤ now.ticks := by omega
      rw [Timestamp.staleAge?_eq_some_iff, Timestamp.ageAt?_eq_some_iff]
      refine ⟨⟨past, ?_⟩, old⟩
      rw [Nat.mul_comm]
      rfl
    exact openQuery_of_refused draws key carries (OneTimeSignature.verify_signWith_of_stale stale _)

end Opening

/-- **The round trip, once and only while fresh.** If the random requests succeed, every text within
the limit of the cipher is sealed under every secret that is not empty. Then the link opens once
from every consistent store without the drawn nonce: alone, or between the pairs of another query
that has no pair of its name in front. -/
theorem sealQuery_opens_once (draws : Draws env) (key : secret ≠ []) {plaintext : String}
    (fits : (Text.utf8 plaintext).length ≤ Gcm.maxPlaintextLength) :
    ∃ q, (sealQuery plaintext secret).runIn env = (.ok q, draws.left) ∧
      ∀ (marked : Bool) (before after : Option (List (String × String))),
        (∀ p ∈ before.getD [], p.1 ≠ parameter) →
        (∀ s : IndexedStore, s.Consistent → draws.signatureNonce ∉ s.toList.map NonceRecord.nonce →
          OpensOnce (Query.embed marked before after q) secret plaintext draws.sealedAt s) ∧
        (∀ s : Fifo NonceRecord, draws.signatureNonce ∉ s.toList.map NonceRecord.nonce →
          OpensOnce (Query.embed marked before after q) secret plaintext draws.sealedAt s) ∧
        ∀ s : BlindStore, s.inner.Consistent →
          draws.signatureNonce ∉ s.toList.map NonceRecord.nonce →
          OpensOnce (Query.embed marked before after q) secret plaintext draws.sealedAt s := by
  obtain ⟨envelope, encrypted, decrypted⟩ := ModernEnvelope.exists_encrypt
    (Octets.length_toBytes (draws.keys secret).cipherKey) fits draws.nonce
  refine ⟨_, runIn_sealQuery draws key encrypted, ?_⟩
  intro marked before after others
  have written : draws.wire secret envelope ≠ [] := by
    apply List.append_ne_nil_of_left_ne_nil
    apply List.ne_nil_of_length_pos
    rw [Octets.length_toBytes]
    decide
  -- the same wire form is found in every such link, and the store decides about the rest
  have carries := wireOfQuery_embed written marked after others
  refine ⟨?_, ?_, ?_⟩
  · intro s consistent new
    have unseen : NonceStore.contains draws.signatureNonce s = false :=
      (FaithfulStore.contains_eq_decide (s := s) consistent).trans (decide_eq_false new)
    exact opensOnce_of_carries draws key carries decrypted consistent new unseen
  · intro s new
    have unseen : NonceStore.contains draws.signatureNonce s = false :=
      (FaithfulStore.contains_eq_decide (s := s) trivial).trans (decide_eq_false new)
    exact opensOnce_of_carries draws key carries decrypted trivial new unseen
  · intro s consistent new
    exact opensOnce_of_carries draws key carries decrypted consistent new rfl

/-- A link that is sealed at the epoch opens once from a new store, alone and after another pair. -/
theorem epoch_link_opens_once :
    ([7] : Bytes) ≠ [] ∧ (Text.utf8 "id=1&x=é").length ≤ Gcm.maxPlaintextLength ∧
      ∃ q, (sealQuery "id=1&x=é" [7]).runIn (ScriptedEnvironment.atInstant Instant.epoch) =
          (.ok q, epochDraws.left) ∧
        OpensOnce q [7] "id=1&x=é" epochDraws.sealedAt IndexedStore.empty ∧
        OpensOnce (Query.embed true (some [("a b", "é")]) none q) [7] "id=1&x=é" epochDraws.sealedAt
          IndexedStore.empty := by
  have key : ([7] : Bytes) ≠ [] := List.cons_ne_nil _ _
  have fits : (Text.utf8 "id=1&x=é").length ≤ Gcm.maxPlaintextLength := by decide
  obtain ⟨q, sealed, opens⟩ := sealQuery_opens_once epochDraws key fits
  have alone := (opens false none none (by decide)).1 IndexedStore.empty
    IndexedStore.consistent_empty List.not_mem_nil
  have among := (opens true (some [("a b", "é")]) none (by decide)).1 IndexedStore.empty
    IndexedStore.consistent_empty List.not_mem_nil
  rw [Query.embed_none] at alone
  exact ⟨key, fits, q, sealed, alone, among⟩

end SealedLink.SharedSecretLink
