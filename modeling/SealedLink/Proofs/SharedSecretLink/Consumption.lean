import SealedLink.Proofs.Envelope.Faults
import SealedLink.Proofs.OneTimeSignature.Checks
import SealedLink.Proofs.SharedSecretLink.RoundTrip

/-!
# The answer tells whether a link is used up

An opening records the nonce of its link in the middle: what is wrong with the wire form or its
signature is found before that, what is wrong with the envelope or the text after it. The two groups
of answers have nothing in common. So the answer alone says whether the link can be tried again, and
no key that is derived on the way can be at fault.

## Main definitions

* `SharedSecretLink.Keeps`, `SharedSecretLink.UsesUp` — the answers from before and after the record
* `SharedSecretLink.Ends` — how an opening can end
* `SharedSecretLink.Tells` — what can be told from the answer of an opening

## Main results

* `SharedSecretLink.openWire_cases` — an opening is refused for its form, or it is a verification
* `SharedSecretLink.ends_openWire`, `SharedSecretLink.ends_openQuery` — the ends of an opening
* `SharedSecretLink.answer_tells` — the answer tells whether the link is used up
-/

namespace SealedLink.SharedSecretLink

open RecordStore (records Consistent)

/-! ### Two groups of answers -/

/-- The fields that are named as invalid before the nonce of a link is recorded. -/
def earlyFields : List String := ["key", parameter, "signature", "signed data", "timestamp"]

/-- The errors that are found before the nonce of a link is recorded. -/
inductive Keeps (maxAge : Duration) : LaunchError → Prop
  | invalidInput {field : String} (early : field ∈ earlyFields) (reason : String) :
    Keeps maxAge (.invalidInput field reason)
  | stale {age : Duration} (old : maxAge.nanos < age.nanos) : Keeps maxAge (.stale age maxAge)
  | replay : Keeps maxAge .replay
  | mismatch : Keeps maxAge (.authenticationFailed "signature mismatch")

/-- The answers that are given after the nonce of a link is recorded; `lateFields` are the fields
that can be invalid then. -/
inductive UsesUp {α : Type} (lateFields : List String) : Except LaunchError α → Prop
  | opened (a : α) : UsesUp lateFields (.ok a)
  | fault {e : CryptoError} (fault : Envelope.IsFault e) : UsesUp lateFields (.error (.crypto e))
  | invalidInput {field : String} (late : field ∈ lateFields) (reason : String) :
    UsesUp lateFields (.error (.invalidInput field reason))

variable {α : Type} {maxAge : Duration} {lateFields : List String}

theorem Keeps.not_usesUp {e : LaunchError} (h : Keeps maxAge e)
    (apart : ∀ field ∈ earlyFields, field ∉ lateFields) :
    ¬ UsesUp lateFields (.error e : Except LaunchError α) := by
  intro used
  cases h with
  | invalidInput early reason =>
    cases used with
    | invalidInput late _ => exact apart _ early late
  | stale | replay | mismatch => cases used

theorem Keeps.isFatal {e : LaunchError} (h : Keeps maxAge e) : e.isFatal = false := by
  cases h <;> rfl

theorem UsesUp.isFatal {e : LaunchError}
    (h : UsesUp lateFields (.error e : Except LaunchError α)) : e.isFatal = false := by
  cases h with
  | fault fault => cases fault <;> rfl
  | invalidInput => rfl

/-! ### The ends of an opening -/

section Opening

variable {σ : Type} [NonceStore σ] [FaithfulStore σ] {now : Timestamp} {wire secret : Bytes} {s : σ}

/-- The nonce at its place in a wire form: behind the outer nonce, the code and the timestamp. -/
def CarriesNonce (wire : Bytes) (nonce : Nonce) : Prop := nonce.toBytes = (wire.drop 52).take 32

/-- An opening of a wire form ends with an early error and the store as it was. Or the nonce of the
wire form is new to the store and recorded in it, and the opening is a replay from then on. -/
inductive Ends (maxAge : Duration) (lateFields : List String) (wire : Except LaunchError Bytes)
    (opening : σ → Except LaunchError α × σ) (s : σ) : Prop
  | kept {e : LaunchError} (early : Keeps maxAge e) (same : opening s = (.error e, s))
  | used {w : Bytes} {nonce : Nonce} {answer : Except LaunchError α} {s' : σ} (read : wire = .ok w)
    (carries : CarriesNonce w nonce) (late : UsesUp lateFields answer)
    (new : nonce ∉ (records s).map NonceRecord.nonce)
    (queued : nonce ∈ (records s').map NonceRecord.nonce) (ended : opening s = (answer, s'))
    (again : opening s' = (.error .replay, s'))

/-- Each of the six checks of a signed message gives an early error. -/
theorem keeps_of_check {q : OneTimeSignature.Request} {c : OneTimeSignature.Check}
    (fails : ¬ c.Passes q) : Keeps q.maxAge (c.error q) := by
  cases c with
  | codeLength | stampLength | timestamp => exact .invalidInput (by decide) _
  | age => exact .stale (Nat.not_le.mp (not_or.mp fails).2)
  | nonce => exact .replay
  | code => exact .mismatch

/-- A signed message is refused with an early error only, and without an effect. -/
theorem keeps_of_verify {signed key : Bytes} {s' : σ} {e : LaunchError} (h : Consistent s)
    (refused : OneTimeSignature.verify maxAge now signed key s = (.error e, s')) :
    Keeps maxAge e ∧ s' = s := by
  constructor
  · have judged := OneTimeSignature.verify_fst_eq_judge ⟨signed, key, now, maxAge, records s⟩ h rfl
    rw [refused] at judged
    obtain ⟨-, c, -, -, -, fails, rfl⟩ := OneTimeSignature.judge_eq_error_iff.mp judged.symm
    exact keeps_of_check fails
  · rcases OneTimeSignature.verify_cases maxAge now signed key h with
      ⟨e', same⟩ | ⟨m, -, -, -, -, accepted⟩
    · rw [refused] at same
      exact (Prod.mk.inj same).2
    · rw [refused] at accepted
      cases accepted

theorem usesUp_ofCrypto {result : Except CryptoError α}
    (fault : ∀ e, result = .error e → Envelope.IsFault e) :
    UsesUp lateFields (LaunchError.ofCrypto result) := by
  cases result with
  | ok a => exact .opened a
  | error e => exact .fault (fault e rfl)

omit [FaithfulStore σ] in
/-- The opening of a wire form refuses it for its form. Or it is the verification of its signed
message, followed by the decryption of what is accepted. Which of the two it is does not depend on
the store. -/
theorem openWire_cases (maxAge : Duration) (now : Timestamp) (wire secret : Bytes) :
    (∃ field ∈ earlyFields, ∃ reason, ∀ s : σ,
        openWire maxAge now wire secret s = (.error (.invalidInput field reason), s)) ∨
      ∃ outerNonce, splitWire wire = .ok (outerNonce, wire.drop outerNonceSize) ∧ ∀ s : σ,
        openWire maxAge now wire secret s =
          (OneTimeSignature.verify maxAge now (wire.drop outerNonceSize)
            (Keys.derive secret outerNonce).signatureKey.toBytes s).map
          (· >>= fun envelope => LaunchError.ofCrypto
            (Envelope.decrypt envelope (Keys.derive secret outerNonce).cipherKey.toBytes)) id := by
  by_cases key : secret = []
  · have refused : checkKey secret = .error (.invalidInput "key" "must not be empty") := by
      rw [checkKey, if_pos key]
    refine .inl ⟨"key", by decide, "must not be empty", fun s => ?_⟩
    simp only [openWire, refused]
  · have checked := checkKey_of_ne_nil key
    cases split : Octets.split? outerNonceSize wire with
    | none =>
      refine .inl ⟨parameter, by decide, "shorter than the outer nonce", fun s => ?_⟩
      simp only [openWire, checked, splitWire, split]
    | some parts =>
      obtain ⟨outerNonce, signed⟩ := parts
      obtain ⟨-, -, rfl⟩ := Octets.split?_eq_some_iff.mp split
      have taken : splitWire wire = .ok (outerNonce, wire.drop outerNonceSize) := by
        rw [splitWire, split]
      refine .inr ⟨outerNonce, taken, fun s => ?_⟩
      simp only [openWire, checked, taken]
      cases OneTimeSignature.verify maxAge now (wire.drop outerNonceSize)
          (Keys.derive secret outerNonce).signatureKey.toBytes s with
      | mk answer s' => cases answer <;> rfl

theorem ends_openWire (maxAge : Duration) (now : Timestamp) (wire secret : Bytes)
    (h : Consistent s) : Ends maxAge [] (.ok wire) (openWire maxAge now wire secret) s := by
  rcases openWire_cases (σ := σ) maxAge now wire secret with
    ⟨field, early, reason, refused⟩ | ⟨outerNonce, -, opened⟩
  · exact .kept (.invalidInput early reason) (refused s)
  · cases verified : OneTimeSignature.verify maxAge now (wire.drop outerNonceSize)
        (Keys.derive secret outerNonce).signatureKey.toBytes s with
    | mk answer s' =>
      cases answer with
      | error e =>
        obtain ⟨early, rfl⟩ := keeps_of_verify h verified
        exact .kept early (by rw [opened, verified]; rfl)
      | ok envelope =>
        obtain ⟨m, parsed, new, queued, replay⟩ := OneTimeSignature.verify_again h verified
        have carries : CarriesNonce wire m.content.nonce := by
          have parts := OneTimeSignature.isMessageOf_of_parse
            (q := ⟨wire.drop outerNonceSize, [], now, maxAge, []⟩) parsed
          rw [CarriesNonce, parts.nonce, List.drop_drop]
          rfl
        -- the derived key has the one length for which only the envelope can be at fault
        have fault : ∀ e, Envelope.decrypt envelope
            (Keys.derive secret outerNonce).cipherKey.toBytes = .error e → Envelope.IsFault e :=
          fun _ => Envelope.isFault_of_decrypt (Octets.length_toBytes _)
        exact .used rfl carries (usesUp_ofCrypto fault) new queued
          (by rw [opened, verified]; rfl) (by rw [opened, replay]; rfl)

/-- The text is read from a plaintext that has used up its link. -/
theorem usesUp_textOfPlaintext (plaintext : Bytes) :
    UsesUp ["plaintext"] (textOfPlaintext plaintext) := by
  unfold textOfPlaintext
  split
  · exact .opened _
  · exact .invalidInput (by decide) _

theorem keeps_of_wireOfQuery {query : String} {e : LaunchError}
    (h : wireOfQuery query = .error e) : Keeps maxAge e := by
  unfold wireOfQuery at h
  split at h
  · cases h
    exact .invalidInput (by decide) _
  · split at h
    · cases h
    · cases h
      exact .invalidInput (by decide) _

theorem ends_openQuery (maxAge : Duration) (now : Timestamp) (query : String) (secret : Bytes)
    (h : Consistent s) :
    Ends maxAge ["plaintext"] (wireOfQuery query) (openQuery maxAge now query secret) s := by
  cases read : wireOfQuery query with
  | error e => exact .kept (keeps_of_wireOfQuery read) (by simp only [openQuery, read])
  | ok wire =>
    cases ends_openWire maxAge now wire secret h with
    | kept early same => exact .kept early (by simp only [openQuery, read, same])
    | @used _ _ answer s' written carries late new queued ended again =>
      cases written
      have replay : openQuery maxAge now query secret s' = (.error .replay, s') := by
        simp only [openQuery, read, again]
      -- a plaintext is still to be read as a text, an error stays what it is
      cases late with
      | opened plaintext =>
        exact .used rfl carries (usesUp_textOfPlaintext plaintext) new queued
          (by simp only [openQuery, read, ended]) replay
      | fault fault =>
        exact .used rfl carries (.fault fault) new queued (by simp only [openQuery, read, ended])
          replay
      | invalidInput late _ => exact absurd late List.not_mem_nil

end Opening

/-! ### What the answer tells -/

/-- The answer of an opening is early or late, and no resource is ever to blame. After a late one
the nonce of the wire form has been new to the store and is queued now, and the same opening is a
replay; after any other the store is as it was. -/
structure Tells (maxAge : Duration) (lateFields : List String) (wire : Except LaunchError Bytes)
    (opening : IndexedStore → Except LaunchError α × IndexedStore) (s : IndexedStore) : Prop where
  answer : UsesUp lateFields (opening s).1 ∨ ∃ e, (opening s).1 = .error e ∧ Keeps maxAge e
  notFatal : ∀ e, (opening s).1 = .error e → e.isFatal = false
  usedUp : UsesUp lateFields (opening s).1 →
    (∃ w nonce, wire = .ok w ∧ CarriesNonce w nonce ∧ nonce ∉ s.toList.map NonceRecord.nonce ∧
      nonce ∈ (opening s).2.toList.map NonceRecord.nonce) ∧
    opening (opening s).2 = (.error .replay, (opening s).2)
  kept : ¬ UsesUp lateFields (opening s).1 → (opening s).2 = s

theorem Ends.tells {wire : Except LaunchError Bytes}
    {opening : IndexedStore → Except LaunchError α × IndexedStore} {s : IndexedStore}
    (apart : ∀ field ∈ earlyFields, field ∉ lateFields)
    (h : Ends maxAge lateFields wire opening s) : Tells maxAge lateFields wire opening s := by
  cases h with
  | @kept e early same =>
    have unused := early.not_usesUp (α := α) apart
    constructor
    · exact .inr ⟨e, by rw [same], early⟩
    · rw [same]
      intro _ shown
      cases shown
      exact early.isFatal
    · rw [same]
      intro used
      exact absurd used unused
    · rw [same]
      exact fun _ => rfl
  | @used w nonce answer s' read carries late new queued ended again =>
    constructor
    · rw [ended]
      exact .inl late
    · rw [ended]
      intro e shown
      dsimp only at shown
      subst shown
      exact late.isFatal
    · rw [ended]
      exact fun _ => ⟨⟨w, nonce, read, carries, new, queued⟩, again⟩
    · rw [ended]
      intro unused
      exact absurd late unused

/-- **The answer tells whether the link is used up.** This holds for every wire form and every
query, under every secret, clock and limit and in every consistent store. The one late answer that a
query has beyond those of its wire form is a plaintext that is no text. -/
theorem answer_tells (maxAge : Duration) (now : Timestamp) (secret : Bytes) {s : IndexedStore}
    (h : s.Consistent) :
    (∀ wire, Tells maxAge [] (.ok wire) (openWire maxAge now wire secret) s) ∧
      ∀ query, Tells maxAge ["plaintext"] (wireOfQuery query)
        (openQuery maxAge now query secret) s := by
  constructor
  · intro wire
    exact (ends_openWire maxAge now wire secret h).tells fun _ _ => List.not_mem_nil
  · intro query
    exact (ends_openQuery maxAge now query secret h).tells (by decide)

/-- A signed message with nothing in it has used up its link when the missing envelope is noticed;
the same wire form is a replay from then on. -/
theorem empty_envelope_uses_up_link :
    IndexedStore.empty.Consistent ∧
      ∃ s', openWire OneTimeSignature.defaultMaxAge epochDraws.sealedAt (epochDraws.wire [7] []) [7]
          IndexedStore.empty = (.error (.crypto (.malformed "empty envelope")), s') ∧
        openWire OneTimeSignature.defaultMaxAge epochDraws.sealedAt (epochDraws.wire [7] []) [7] s' =
          (.error .replay, s') := by
  have consistent := IndexedStore.consistent_empty
  have fresh : (epochDraws.stamped []).timestamp.staleAge? epochDraws.sealedAt
      OneTimeSignature.defaultMaxAge = none := by
    rw [Timestamp.staleAge?_eq_none_iff, Timestamp.isExpired_eq_false_iff]
    exact .inr (by simp [Draws.stamped])
  have new : (epochDraws.stamped []).nonce ∉ IndexedStore.empty.toList.map NonceRecord.nonce :=
    List.not_mem_nil
  have unseen : NonceStore.contains (epochDraws.stamped []).nonce IndexedStore.empty = false :=
    (FaithfulStore.contains_eq_decide (s := IndexedStore.empty) consistent).trans
      (decide_eq_false new)
  obtain ⟨s', accepted, -, -⟩ := OneTimeSignature.verify_signWith_of_fresh consistent fresh new unseen
  have ended : openWire OneTimeSignature.defaultMaxAge epochDraws.sealedAt (epochDraws.wire [7] [])
      [7] IndexedStore.empty = (.error (.crypto (.malformed "empty envelope")), s') := by
    rw [openWire, checkKey_of_ne_nil (List.cons_ne_nil _ _), splitWire_wire]
    simp only [Draws.signed, Draws.keys] at accepted ⊢
    rw [accepted]
    rfl
  have tells := (answer_tells OneTimeSignature.defaultMaxAge epochDraws.sealedAt [7] consistent).1
    (epochDraws.wire [7] [])
  have again := (tells.usedUp (by rw [ended]; exact .fault (.malformed _))).2
  rw [ended] at again
  exact ⟨consistent, s', ended, again⟩

end SealedLink.SharedSecretLink
