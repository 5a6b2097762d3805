import SealedLink.Proofs.OneTimeSignature.Signing
import SealedLink.Proofs.Staged

/-!
# The checks of a signed message

Six checks decide about a signed message, always in the same order. They are stated here for the
bytes at their places, the clock and the records of the store, without the functions that take a
message apart. The first check that fails gives the error, and a message that passes all of them is
accepted.

## Main definitions

* `OneTimeSignature.Request` — all that decides about a message
* `OneTimeSignature.Check` — the checks, `Check.order` their order
* `Check.Passes`, `Check.error` — what a check asks for, and the error if it fails
* `OneTimeSignature.Decides` — an answer is the one that the checks give

## Main results

* `OneTimeSignature.verify_fst_eq_judge` — the answer of a faithful store is found by going through
  the checks
* `OneTimeSignature.verify_decides` — exact acceptance, and the exact error otherwise
-/

namespace SealedLink.OneTimeSignature

/-- All that decides whether a signed message is accepted. -/
structure Request where
  /-- The signed message. -/
  signed : Bytes
  /-- The key of the verifier. -/
  key : Bytes
  /-- The time at the verifier. -/
  now : Timestamp
  /-- The age up to which a message is accepted. -/
  maxAge : Duration
  /-- The records of the nonce store. -/
  records : List NonceRecord

namespace Request

/-- The kind of time, in the two high bits of bytes 32 to 39. -/
def kind (q : Request) : Nat := SignedMessage.timestampWord q.signed / 2 ^ 62

/-- The ticks, in the other bits of bytes 32 to 39. -/
def ticks (q : Request) : Nat := SignedMessage.timestampWord q.signed % 2 ^ 62

/-- The nanoseconds from the timestamp to the clock, none if it is in the future. -/
def age (q : Request) : Nat := 100 * (q.now.ticks - q.ticks)

end Request

/-- The checks of a signed message. -/
inductive Check where
  /-- There is a whole authentication code. -/
  | codeLength
  /-- There are a whole timestamp and a whole nonce after it. -/
  | stampLength
  /-- The timestamp can be read. -/
  | timestamp
  /-- The message is not too old. -/
  | age
  /-- The nonce is not queued. -/
  | nonce
  /-- The authentication code is the expected one. -/
  | code
  deriving DecidableEq

namespace Check

/-- The order of the checks. -/
def order : List Check := [codeLength, stampLength, timestamp, age, nonce, code]

/-- What a check asks for. -/
def Passes (q : Request) : Check → Prop
  | codeLength => 32 ≤ q.signed.length
  | stampLength => 72 ≤ q.signed.length
  | timestamp => q.kind ≤ 1 ∧ q.ticks ≤ Timestamp.maxTicks
  | age => q.now.ticks < q.ticks ∨ q.age ≤ q.maxAge.nanos
  | nonce => ∀ r ∈ q.records, r.nonce.toBytes ≠ (q.signed.drop 40).take 32
  | code => q.signed.take 32 = (hmac q.key (q.signed.drop 32)).toBytes

/-- The error if a check fails after all earlier ones have passed. -/
def error (q : Request) : Check → LaunchError
  | codeLength => .invalidInput "signature"
      s!"{q.signed.length} bytes is shorter than the minimum of {72}"
  | stampLength => .invalidInput "signed data"
      s!"{q.signed.length - 32} bytes is shorter than timestamp and nonce ({40} bytes)"
  | timestamp => .invalidInput "timestamp"
      (if 1 < q.kind then "local-time timestamps are not accepted"
      else s!"{q.ticks} ticks out of range")
  | age => .stale ⟨q.age⟩ q.maxAge
  | nonce => .replay
  | code => .authenticationFailed "signature mismatch"

instance (q : Request) (c : Check) : Decidable (c.Passes q) :=
  match c with
  | codeLength => inferInstanceAs (Decidable (32 ≤ _))
  | stampLength => inferInstanceAs (Decidable (72 ≤ _))
  | timestamp => inferInstanceAs (Decidable (_ ∧ _))
  | age => inferInstanceAs (Decidable (_ ∨ _))
  | nonce => inferInstanceAs (Decidable (∀ r ∈ q.records, _))
  | code => inferInstanceAs (Decidable (q.signed.take 32 = _))

end Check

/-- The answer found by going through a list of checks up to the first that fails. -/
def judge (q : Request) : List Check → Except LaunchError Bytes
  | [] => .ok (q.signed.drop 72)
  | c :: checks => if c.Passes q then judge q checks else .error (c.error q)

/-- An answer is the one that the checks give: data exactly if all checks pass, and then those
behind byte 72; an error exactly if it is the one of the first check that fails. -/
def Decides (q : Request) (answer : Except LaunchError Bytes) : Prop :=
  (∀ data, answer = .ok data ↔ (∀ c : Check, c.Passes q) ∧ data = q.signed.drop 72) ∧
    ∀ e, answer = .error e ↔ ∃ passed c later, Check.order = passed ++ c :: later ∧
      (∀ p ∈ passed, p.Passes q) ∧ ¬ c.Passes q ∧ e = c.error q

/-! ### Going through the checks -/

variable {q : Request}

/-- The checks are stages whose result is the data. -/
theorem judge_eq_staged (checks : List Check) :
    judge q checks =
      Staged.judge (Check.Passes q) (Check.error q) checks (.ok (q.signed.drop 72)) := by
  induction checks with
  | nil => rfl
  | cons c checks ih => rw [judge, Staged.judge_cons, ih]

theorem judge_eq_ok_iff {checks : List Check} {data : Bytes} :
    judge q checks = .ok data ↔ (∀ c ∈ checks, c.Passes q) ∧ data = q.signed.drop 72 := by
  rw [judge_eq_staged, Staged.judge_eq_ok_iff, eq_comm (a := data)]

theorem judge_eq_error_iff {checks : List Check} {e : LaunchError} :
    judge q checks = .error e ↔ ∃ passed c later, checks = passed ++ c :: later ∧
      (∀ p ∈ passed, p.Passes q) ∧ ¬ c.Passes q ∧ e = c.error q := by
  rw [judge_eq_staged]
  exact Staged.judge_eq_error_iff

theorem Check.mem_order (c : Check) : c ∈ Check.order := by
  cases c <;> decide

theorem decides_judge : Decides q (judge q Check.order) := by
  constructor
  · intro data
    rw [judge_eq_ok_iff]
    exact and_congr_left' ⟨fun all c => all c c.mem_order, fun all c _ => all c⟩
  · intro e
    exact judge_eq_error_iff

/-! ### The checks of the form -/

theorem timestampWord_lt (signed : Bytes) : SignedMessage.timestampWord signed < 2 ^ 64 := by
  calc SignedMessage.timestampWord signed
    _ < 256 ^ ((signed.drop 32).take 8).length := Bytes.toNatLE_lt _
    _ ≤ 256 ^ 8 := Nat.pow_le_pow_right (by decide) (List.length_take_le _ _)

theorem toNat_timestampWord (signed : Bytes) :
    (UInt64.ofNat (SignedMessage.timestampWord signed)).toNat =
      SignedMessage.timestampWord signed := by
  rw [UInt64.toNat_ofNat']
  exact Nat.mod_eq_of_lt (timestampWord_lt signed)

/-- The parts of a message are the bytes of a request at their places. -/
structure IsMessageOf (q : Request) (m : SignedMessage) : Prop where
  mac : m.mac.toBytes = q.signed.take 32
  packed : m.packed = q.signed.drop 32
  ticks : m.content.timestamp.ticks = q.ticks
  nonce : m.content.nonce.toBytes = (q.signed.drop 40).take 32
  data : m.content.data = q.signed.drop 72

/-- A message is taken apart if the first three checks pass; if not, the first of them that fails
gives the error. -/
theorem parse_cases (q : Request) :
    (∃ e, SignedMessage.parse q.signed = .error e ∧
        ∀ later, judge q (.codeLength :: .stampLength :: .timestamp :: later) = .error e) ∨
      ∃ m, SignedMessage.parse q.signed = .ok m ∧ IsMessageOf q m ∧
        ∀ later, judge q (.codeLength :: .stampLength :: .timestamp :: later) = judge q later := by
  by_cases codeLength : Check.codeLength.Passes q
  · by_cases stampLength : Check.stampLength.Passes q
    · obtain ⟨mac, nonce, code, unique, parsed⟩ := SignedMessage.parse_of_le stampLength
      by_cases readable : Check.timestamp.Passes q
      · have read : Timestamp.ofBinary (UInt64.ofNat (SignedMessage.timestampWord q.signed)) =
            .ok ⟨q.ticks, readable.2⟩ := by
          rw [Timestamp.ofBinary_eq_ok_iff, toNat_timestampWord]
          exact ⟨readable.1, rfl⟩
        rw [read] at parsed
        refine .inr ⟨_, parsed, ⟨code, rfl, rfl, unique, rfl⟩, fun later => ?_⟩
        simp only [judge, codeLength, stampLength, readable, if_true]
      -- the parts of the word are those of its number, which fits into the word
      · have unreadable := readable
        rw [Check.Passes, Request.kind, Request.ticks, ← toNat_timestampWord] at unreadable
        have unread := Timestamp.ofBinary_eq_error_of_not_readable unreadable
        rw [unread, toNat_timestampWord] at parsed
        refine .inl ⟨_, parsed, fun later => ?_⟩
        simp only [judge, codeLength, stampLength, readable, if_true, if_false]
        rfl
    · refine .inl ⟨_, SignedMessage.parse_of_lt_minLength codeLength (Nat.not_le.mp stampLength),
        fun later => ?_⟩
      simp only [judge, codeLength, stampLength, if_true, if_false]
      rfl
  · refine .inl ⟨_, SignedMessage.parse_of_lt_macSize (Nat.not_le.mp codeLength), fun later => ?_⟩
    simp only [judge, codeLength, if_false]
    rfl

theorem isMessageOf_of_parse {m : SignedMessage} (h : SignedMessage.parse q.signed = .ok m) :
    IsMessageOf q m := by
  rcases parse_cases q with ⟨e, unparsed, -⟩ | ⟨m', parsed, parts, -⟩
  · rw [h] at unparsed
    cases unparsed
  · rw [h] at parsed
    cases parsed
    exact parts

/-! ### The checks of the content -/

namespace IsMessageOf

variable {m : SignedMessage}

theorem age_passes_iff (parts : IsMessageOf q m) :
    Check.age.Passes q ↔ m.content.timestamp.staleAge? q.now q.maxAge = none := by
  rw [Timestamp.staleAge?_eq_none_iff, Timestamp.isExpired_eq_false_iff, parts.ticks, Nat.mul_comm]
  rfl

theorem eq_age_of_staleAge? (parts : IsMessageOf q m) {age : Duration}
    (h : m.content.timestamp.staleAge? q.now q.maxAge = some age) : age = ⟨q.age⟩ := by
  obtain ⟨elapsed, -⟩ := Timestamp.staleAge?_eq_some_iff.mp h
  obtain ⟨-, rfl⟩ := Timestamp.ageAt?_eq_some_iff.mp elapsed
  rw [parts.ticks, Nat.mul_comm]
  rfl

theorem nonce_passes_iff (parts : IsMessageOf q m) :
    Check.nonce.Passes q ↔ m.content.nonce ∉ q.records.map NonceRecord.nonce := by
  rw [List.mem_map]
  constructor
  · rintro fresh ⟨r, member, same⟩
    exact fresh r member (by rw [same, parts.nonce])
  · intro absent r member same
    exact absent ⟨r, member, Octets.ext (same.trans parts.nonce.symm)⟩

theorem code_passes_iff (parts : IsMessageOf q m) :
    Check.code.Passes q ↔ m.mac = hmac q.key m.packed := by
  rw [parts.packed]
  constructor
  · intro same
    exact Octets.ext (parts.mac.trans same)
  · intro same
    exact parts.mac.symm.trans (congrArg Octets.toBytes same)

end IsMessageOf

/-! ### Verification goes through the checks -/

/-- The first four checks are the same for every store. What is left for a message that passes them
is asked of the store. -/
theorem verify_fst_eq_judge_append {σ : Type} [NonceStore σ] (q : Request) {s : σ}
    {back : List Check}
    (rest : ∀ m, SignedMessage.parse q.signed = .ok m → IsMessageOf q m →
      m.content.timestamp.staleAge? q.now q.maxAge = none →
      (verify q.maxAge q.now q.signed q.key s).1 = judge q back) :
    (verify q.maxAge q.now q.signed q.key s).1 =
      judge q ([.codeLength, .stampLength, .timestamp, .age] ++ back) := by
  -- the first three checks are those of the form; they decide before the store is asked
  rcases parse_cases q with ⟨e, parsed, outcome⟩ | ⟨m, parsed, parts, outcome⟩
  · refine Eq.trans ?_ (outcome (.age :: back)).symm
    simp only [verify, parsed]
  · refine Eq.trans ?_ (outcome (.age :: back)).symm
    cases stale : m.content.timestamp.staleAge? q.now q.maxAge with
    | some age =>
      have fails : ¬ Check.age.Passes q := by
        rw [parts.age_passes_iff, stale]
        exact Option.some_ne_none age
      simp only [verify, parsed, stale, judge, fails, if_false]
      rw [parts.eq_age_of_staleAge? stale]
      rfl
    | none =>
      have young : Check.age.Passes q := parts.age_passes_iff.mpr stale
      rw [judge, if_pos young]
      exact rest m parsed parts stale

section Verification

variable {σ : Type} [NonceStore σ] [FaithfulStore σ]

open RecordStore (records Consistent)

/-- A faithful store answers with the outcome of the checks. -/
theorem verify_fst_eq_judge (q : Request) {s : σ} (h : Consistent s)
    (shown : records s = q.records) :
    (verify q.maxAge q.now q.signed q.key s).1 = judge q Check.order := by
  refine verify_fst_eq_judge_append q ?_
  intro m parsed parts stale
  have absent := parts.nonce_passes_iff
  rw [← shown] at absent
  simp only [verify, parsed, stale, judge, FaithfulStore.contains_eq_decide h, decide_eq_true_eq]
  by_cases queued : m.content.nonce ∈ (records s).map NonceRecord.nonce
  · have fails : ¬ Check.nonce.Passes q := fun passes => absent.mp passes queued
    simp only [queued, fails, if_true, if_false]
    rfl
  · have admitted := RecordStore.enqueueIfAbsent_eq (r := m.content.record) h
    rw [if_neg (show m.content.record.nonce ∉ _ from queued)] at admitted
    have passes : Check.nonce.Passes q := absent.mpr queued
    simp only [queued, passes, if_true, if_false, SignedMessage.authenticate_eq]
    -- the code is compared last, and the nonce is added only if it is right
    by_cases authentic : m.mac = hmac q.key m.packed
    · have passes' : Check.code.Passes q := parts.code_passes_iff.mpr authentic
      simp only [authentic, passes', if_true, admitted, parts.data]
    · have fails : ¬ Check.code.Passes q := by
        intro passes'
        exact authentic (parts.code_passes_iff.mp passes')
      simp only [authentic, fails, if_false]
      rfl

end Verification

/-- **Exact acceptance.** For every message, key, clock and limit, a consistent indexed store and a
plain queue give the data exactly if all six checks pass, and otherwise the error of the first check
that fails. No other error can arise. -/
theorem verify_decides (maxAge : Duration) (now : Timestamp) (signed key : Bytes) :
    (∀ store : IndexedStore, store.Consistent →
        Decides ⟨signed, key, now, maxAge, store.toList⟩ (verify maxAge now signed key store).1) ∧
      ∀ store : Fifo NonceRecord,
        Decides ⟨signed, key, now, maxAge, store.toList⟩
          (verify maxAge now signed key store).1 := by
  constructor
  · intro store consistent
    rw [verify_fst_eq_judge ⟨signed, key, now, maxAge, store.toList⟩ consistent rfl]
    exact decides_judge
  · intro store
    rw [verify_fst_eq_judge ⟨signed, key, now, maxAge, store.toList⟩ (s := store) trivial rfl]
    exact decides_judge

/-- At half a minute, to the tick, a message is not yet too old by default. One whose nonce is
queued is refused for that, before its code is looked at; one with another nonce and a right code is
accepted, so all six checks pass. -/
theorem verify_refuses_queued_nonce :
    let store := IndexedStore.empty.push ⟨Octets.zero 32, ⟨0, Nat.zero_le _⟩⟩
    let now : Timestamp := ⟨300000000, by decide⟩
    let content : StampedData := ⟨⟨0, Nat.zero_le _⟩, ⟨List.replicate 32 1, rfl⟩, [7]⟩
    store.Consistent ∧
      (verify defaultMaxAge now (List.replicate 72 0) [] store).1 = .error .replay ∧
      (verify defaultMaxAge now (signWith [5] content) [5] store).1 = .ok [7] ∧
      ∀ c : Check, c.Passes ⟨signWith [5] content, [5], now, defaultMaxAge, store.toList⟩ := by
  intro store now content
  have consistent : store.Consistent := IndexedStore.consistent_empty.push _
  have decides := fun signed key => (verify_decides defaultMaxAge now signed key).1 store consistent
  have refused : (verify defaultMaxAge now (List.replicate 72 0) [] store).1 = .error .replay := by
    refine ((decides _ _).2 _).mpr ?_
    exact ⟨[.codeLength, .stampLength, .timestamp, .age], .nonce, [.code], rfl, by decide,
      by decide, rfl⟩
  have fresh : content.timestamp.staleAge? now defaultMaxAge = none := by decide
  have new : content.nonce ∉ store.toList.map NonceRecord.nonce := by decide
  have unseen : NonceStore.contains content.nonce store = false :=
    (FaithfulStore.contains_eq_decide consistent).trans (decide_eq_false new)
  obtain ⟨left, accepts, -, -⟩ := verify_signWith_of_fresh consistent fresh new unseen
  have accepted : (verify defaultMaxAge now (signWith [5] content) [5] store).1 = .ok [7] :=
    congrArg Prod.fst accepts
  exact ⟨consistent, refused, accepted, (((decides _ _).1 _).mp accepted).1⟩

end SealedLink.OneTimeSignature
