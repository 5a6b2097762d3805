import Mathlib.Data.List.TakeWhile
import SealedLink.Proofs.Comparison
import SealedLink.Proofs.NonceStore.Records
import SealedLink.Proofs.OneTimeSignature.Packing
import SealedLink.Proofs.Time.Freshness

/-!
# What one verification can do

A verification either refuses its message and leaves the store alone, or accepts it, adds its record
and drops the longest expired initial part of the queue. Everything else about verification follows
from this.

## Main results

* `SignedMessage.parse_of_le` — the parts of a message of sufficient length, by their places
* `SignedMessage.authenticate_eq` — the check of the code decides equality with the expected code
* `OneTimeSignature.verify_cases` — a verification refuses without effect, or accepts
* `OneTimeSignature.records_purge_enqueue` — the records after a verification that accepts
* `OneTimeSignature.verify_of_queued` — an authentic and fresh message with a queued nonce is a replay
* `OneTimeSignature.verify_again` — an accepted message is a replay at the same time
-/

namespace SealedLink

/-! ### The form of a message -/

namespace SignedMessage

/-- The number in the bytes of a signed message that hold its timestamp. -/
def timestampWord (signed : Bytes) : Nat := Bytes.toNatLE ((signed.drop 32).take 8)

theorem parse_of_lt_macSize {signed : Bytes} (h : signed.length < 32) :
    parse signed = .error (.invalidInput "signature"
      s!"{signed.length} bytes is shorter than the minimum of {minLength}") := by
  have short : Octets.split? macSize signed = none := Octets.split?_eq_none_iff.mpr h
  rw [parse, short]

theorem parse_of_lt_minLength {signed : Bytes} (code : 32 ≤ signed.length)
    (h : signed.length < 72) :
    parse signed = .error (StampedData.tooShort (signed.length - 32)) := by
  obtain ⟨mac, -, split⟩ := Octets.exists_split? (n := macSize) (b := signed) code
  have rest : (signed.drop macSize).length = signed.length - 32 := List.length_drop
  have short : (signed.drop macSize).length < 40 := by omega
  have unpacked := StampedData.unpack_of_lt short
  rw [parse, split]
  simp only [unpacked, rest]

/-- A message of at least seventy-two bytes is taken apart at fixed places; only its timestamp can
still be wrong. -/
theorem parse_of_le {signed : Bytes} (h : 72 ≤ signed.length) :
    ∃ (mac : Octets 32) (nonce : Nonce), mac.toBytes = signed.take 32 ∧
      nonce.toBytes = (signed.drop 40).take 32 ∧
      parse signed =
        (Timestamp.ofBinary (UInt64.ofNat (timestampWord signed))).map fun timestamp =>
          ⟨mac, signed.drop 32, ⟨timestamp, nonce, signed.drop 72⟩⟩ := by
  obtain ⟨mac, code, split⟩ := Octets.exists_split? (n := 32) (b := signed) (by omega)
  -- the places of the other parts are counted from the end of the code
  have room : 40 ≤ (signed.drop 32).length := by
    rw [List.length_drop]
    omega
  obtain ⟨nonce, unique, unpacked⟩ := StampedData.unpack_of_le room
  rw [List.drop_drop] at unique unpacked
  have word :
      StampedData.timestampWord (signed.drop 32) = UInt64.ofNat (timestampWord signed) := rfl
  rw [word] at unpacked
  refine ⟨mac, nonce, code, unique, ?_⟩
  unfold parse
  simp only [macSize, split, unpacked]
  cases Timestamp.ofBinary (UInt64.ofNat (timestampWord signed)) <;> rfl

/-- The check of the code accepts the expected code only, and every other code is refused alike. -/
theorem authenticate_eq (key : Bytes) (m : SignedMessage) :
    m.authenticate key =
      if m.mac = hmac key m.packed then .ok ()
      else .error (.authenticationFailed "signature mismatch") := by
  have compared : boundedEq (hmac key m.packed).toBytes m.mac.toBytes macSize =
      .ok (decide ((hmac key m.packed).toBytes = m.mac.toBytes)) :=
    boundedEq_of_le (Nat.le_of_eq (Octets.length_toBytes _))
      (Nat.le_of_eq (Octets.length_toBytes _))
  unfold authenticate
  rw [compared]
  by_cases same : m.mac = hmac key m.packed
  · simp [same]
  · have other : (hmac key m.packed).toBytes ≠ m.mac.toBytes := by
      intro bytes
      exact same (Octets.ext bytes.symm)
    simp [same, other]

end SignedMessage

/-! ### The effect of a verification -/

namespace OneTimeSignature

open RecordStore (records Consistent)

variable {σ : Type} [NonceStore σ] [RecordStore σ]

/-- A verification refuses its message and leaves the store as it was, or it accepts: then the
message is well formed, fresh and authentic, its nonce was not queued, and its record has been added
before the expired records left. This holds whatever `contains` answers. -/
theorem verify_cases (maxAge : Duration) (now : Timestamp) (signed key : Bytes) {s : σ}
    (h : Consistent s) :
    (∃ e, verify maxAge now signed key s = (.error e, s)) ∨
      ∃ m, SignedMessage.parse signed = .ok m ∧
        m.content.timestamp.isExpired now maxAge = false ∧
        m.content.nonce ∉ (records s).map NonceRecord.nonce ∧
        m.mac = hmac key m.packed ∧
        verify maxAge now signed key s = (.ok m.content.data,
          (NonceStore.purgeExpired (NonceRecord.isExpired now maxAge)
            (NonceStore.enqueue m.content.record s)).2) := by
  cases parsed : SignedMessage.parse signed with
  | error e => exact .inl ⟨e, by simp only [verify, parsed]⟩
  | ok m =>
    cases stale : m.content.timestamp.staleAge? now maxAge with
    | some age => exact .inl ⟨.stale age maxAge, by simp only [verify, parsed, stale]⟩
    | none =>
      by_cases seen : NonceStore.contains m.content.nonce s = true
      · exact .inl ⟨.replay, by simp only [verify, parsed, stale, seen, if_true]⟩
      · by_cases authentic : m.mac = hmac key m.packed
        · have admitted := RecordStore.enqueueIfAbsent_eq (r := m.content.record) h
          -- a queued nonce is refused in the end, also by a store that did not admit to it
          by_cases queued : m.content.nonce ∈ (records s).map NonceRecord.nonce
          · rw [if_pos (show m.content.record.nonce ∈ _ from queued)] at admitted
            refine .inl ⟨.replay, ?_⟩
            simp only [verify, parsed, stale, seen, SignedMessage.authenticate_eq, authentic,
              if_true, admitted]
            rfl
          · rw [if_neg (show m.content.record.nonce ∉ _ from queued)] at admitted
            refine .inr ⟨m, rfl, Timestamp.staleAge?_eq_none_iff.mp stale, queued, authentic, ?_⟩
            simp only [verify, parsed, stale, seen, SignedMessage.authenticate_eq, authentic,
              if_true, admitted]
            rfl
        · refine .inl ⟨.authenticationFailed "signature mismatch", ?_⟩
          simp only [verify, parsed, stale, seen, SignedMessage.authenticate_eq, authentic,
            if_false]
          rfl

theorem consistent_verify (maxAge : Duration) (now : Timestamp) (signed key : Bytes) {s : σ}
    (h : Consistent s) : Consistent (verify maxAge now signed key s).2 := by
  rcases verify_cases maxAge now signed key h with ⟨e, refused⟩ | ⟨m, -, -, -, -, accepted⟩
  · rw [refused]
    exact h
  · rw [accepted]
    exact RecordStore.consistent_purgeExpired (RecordStore.consistent_enqueue h)

/-- What a purge takes away is expired. -/
theorem mem_dropWhile_or {α : Type} {p : α → Bool} {x : α} {l : List α} (h : x ∈ l) :
    x ∈ l.dropWhile p ∨ p x = true := by
  rw [← List.takeWhile_append_dropWhile (p := p) (l := l)] at h
  rcases List.mem_append.mp h with taken | left
  · exact .inr (List.mem_takeWhile_imp taken)
  · exact .inl left

/-- After an acceptance the records are the old ones and the new one, without the longest expired
initial part. -/
theorem records_purge_enqueue (maxAge : Duration) (now : Timestamp) (r : NonceRecord) {s : σ}
    (h : Consistent s) :
    records (NonceStore.purgeExpired (NonceRecord.isExpired now maxAge)
        (NonceStore.enqueue r s)).2 =
      (records s ++ [r]).dropWhile (NonceRecord.isExpired now maxAge) := by
  rw [RecordStore.records_purgeExpired (RecordStore.consistent_enqueue h),
    RecordStore.records_enqueue h]

/-! ### A message that is sent again -/

variable {maxAge : Duration} {now : Timestamp} {signed key : Bytes} {s s' : σ}

/-- What is fresh enough to be accepted is too young to be purged. -/
theorem mem_records_purge_enqueue (h : Consistent s) {r : NonceRecord}
    (young : r.isExpired now maxAge = false) :
    r ∈ records (NonceStore.purgeExpired (NonceRecord.isExpired now maxAge)
      (NonceStore.enqueue r s)).2 := by
  rw [records_purge_enqueue maxAge now r h]
  have added : r ∈ records s ++ [r] := List.mem_append_right _ (List.mem_singleton.mpr rfl)
  rcases mem_dropWhile_or (p := NonceRecord.isExpired now maxAge) added with left | expired
  · exact left
  · rw [young] at expired
    cases expired

/-- An authentic and fresh message with a queued nonce is a replay, even if the store does not admit
to holding the nonce. -/
theorem verify_of_queued (h : Consistent s) {m : SignedMessage}
    (parsed : SignedMessage.parse signed = .ok m)
    (fresh : m.content.timestamp.isExpired now maxAge = false)
    (authentic : m.mac = hmac key m.packed)
    (queued : m.content.nonce ∈ (records s).map NonceRecord.nonce) :
    verify maxAge now signed key s = (.error .replay, s) := by
  have stale := Timestamp.staleAge?_eq_none_iff.mpr fresh
  by_cases seen : NonceStore.contains m.content.nonce s = true
  · simp only [verify, parsed, stale, seen, if_true]
  · have refused := RecordStore.enqueueIfAbsent_eq (r := m.content.record) h
    rw [if_pos (show m.content.record.nonce ∈ _ from queued)] at refused
    simp only [verify, parsed, stale, seen, SignedMessage.authenticate_eq, authentic, if_true,
      refused]
    rfl

/-- An accepted message has brought a new nonce into the store, where it is found if the message is
sent again at the same time. -/
theorem verify_again (h : Consistent s) {data : Bytes}
    (accepted : verify maxAge now signed key s = (.ok data, s')) :
    ∃ m, SignedMessage.parse signed = .ok m ∧
      m.content.nonce ∉ (records s).map NonceRecord.nonce ∧
      m.content.nonce ∈ (records s').map NonceRecord.nonce ∧
      verify maxAge now signed key s' = (.error .replay, s') := by
  rcases verify_cases maxAge now signed key h with
    ⟨e, refused⟩ | ⟨m, parsed, fresh, new, authentic, done⟩
  · rw [refused] at accepted
    cases accepted
  · rw [done] at accepted
    obtain ⟨-, rfl⟩ := Prod.mk.inj accepted
    have consistent : Consistent (NonceStore.purgeExpired (NonceRecord.isExpired now maxAge)
        (NonceStore.enqueue m.content.record s)).2 :=
      RecordStore.consistent_purgeExpired (RecordStore.consistent_enqueue h)
    have queued := List.mem_map_of_mem (f := NonceRecord.nonce)
      (mem_records_purge_enqueue h (r := m.content.record) fresh)
    exact ⟨m, parsed, new, queued, verify_of_queued consistent parsed fresh authentic queued⟩

end OneTimeSignature

end SealedLink
