import SealedLink.Proofs.Environment
import SealedLink.Proofs.OneTimeSignature.Verification

/-!
# Signed messages are verified once

A message is taken apart into what was put into it, and its code is the expected one under the key
it was signed with. Whether it is accepted is then a matter of its age and of the store: a fresh
message is accepted if its nonce is new, and its record stays behind, since a record as young as
that is not purged.

## Main results

* `SignedMessage.parse_signWith` — what is signed is read back
* `OneTimeSignature.verify_signWith_of_stale` — a message that is too old, whatever the key
* `OneTimeSignature.verify_signWith_of_fresh` — a fresh message with a new nonce
* `OneTimeSignature.verify_signWith_of_queued` — a fresh message with a queued nonce
-/

namespace SealedLink

/-! ### Reading -/

theorem SignedMessage.parse_signWith (key : Bytes) (content : StampedData) :
    parse (OneTimeSignature.signWith key content) =
      .ok ⟨hmac key content.pack, content.pack, content⟩ := by
  have code : Octets.split? macSize (OneTimeSignature.signWith key content) =
      some (hmac key content.pack, content.pack) := Octets.split?_append _ _
  simp only [parse, code, StampedData.unpack_pack]

namespace OneTimeSignature

/-! ### Signing -/

/-- If the nonce can be drawn, the message is signed with the timestamp of the same environment. -/
theorem runIn_sign {ε : Type} [Environment ε] {env env' : ε} {nonce : Nonce}
    (drawn : Environment.draw StampedData.nonceSize env = (.ok nonce, env')) (data key : Bytes) :
    (sign data key).runIn env =
      (.ok (signWith key ⟨Environment.timestamp env, nonce, data⟩), env') := by
  unfold sign
  rw [Randomized.runIn_bind_of_ok (Randomized.runIn_timestamp env),
    Randomized.runIn_bind_of_ok (Randomized.runIn_request_of_ok drawn), Randomized.runIn_pure]

/-- Without a nonce nothing is signed. -/
theorem runIn_sign_of_error {ε : Type} [Environment ε] {env env' : ε} {reason : String}
    (failed : Environment.draw StampedData.nonceSize env = (.error reason, env'))
    (data key : Bytes) :
    (sign data key).runIn env = (.error (.crypto (.randomUnavailable reason)), env') := by
  unfold sign
  rw [Randomized.runIn_bind_of_ok (Randomized.runIn_timestamp env),
    Randomized.runIn_bind_of_error (Randomized.runIn_request_of_error failed)]

/-! ### Verification -/

open RecordStore (records Consistent)

variable {σ : Type} [NonceStore σ] {s : σ}
variable {maxAge : Duration} {now : Timestamp} {key : Bytes} {content : StampedData}

/-- A message that is too old is refused with its age, whatever the key of the verifier. -/
theorem verify_signWith_of_stale {age : Duration}
    (stale : content.timestamp.staleAge? now maxAge = some age) (key' : Bytes) :
    verify maxAge now (signWith key content) key' s = (.error (.stale age maxAge), s) := by
  simp only [verify, SignedMessage.parse_signWith, stale]

variable [RecordStore σ]

/-- A fresh message with a queued nonce is a replay, even if the store does not admit to holding it.
-/
theorem verify_signWith_of_queued (h : Consistent s)
    (fresh : content.timestamp.staleAge? now maxAge = none)
    (queued : content.nonce ∈ (records s).map NonceRecord.nonce) :
    verify maxAge now (signWith key content) key s = (.error .replay, s) := by
  exact verify_of_queued h (SignedMessage.parse_signWith key content)
    (Timestamp.staleAge?_eq_none_iff.mp fresh) rfl queued

/-- A fresh message with a new nonce is accepted, and its record is queued after that. -/
theorem verify_signWith_of_fresh (h : Consistent s)
    (fresh : content.timestamp.staleAge? now maxAge = none)
    (new : content.nonce ∉ (records s).map NonceRecord.nonce)
    (unseen : NonceStore.contains content.nonce s = false) :
    ∃ s', verify maxAge now (signWith key content) key s = (.ok content.data, s') ∧ Consistent s' ∧
      content.record ∈ records s' := by
  have admitted := RecordStore.enqueueIfAbsent_eq (r := content.record) h
  rw [if_neg (show content.record.nonce ∉ _ from new)] at admitted
  refine ⟨(NonceStore.purgeExpired (NonceRecord.isExpired now maxAge)
    (NonceStore.enqueue content.record s)).2, ?_, ?_, ?_⟩
  · simp only [verify, SignedMessage.parse_signWith, fresh, unseen, SignedMessage.authenticate_eq,
      if_true, admitted]
    rfl
  · exact RecordStore.consistent_purgeExpired (RecordStore.consistent_enqueue h)
  · exact mem_records_purge_enqueue h (Timestamp.staleAge?_eq_none_iff.mp fresh)

end OneTimeSignature

end SealedLink
