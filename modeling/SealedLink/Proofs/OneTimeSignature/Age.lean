import SealedLink.Proofs.OneTimeSignature.Checks
import SealedLink.Proofs.OneTimeSignature.Freshness

/-!
# The age of a signed message

The age of a message is read without a key and without a store, by a reader of its own that skips
the authentication code. It reads exactly the messages that verification takes apart. So the age
tells what verification says at the same time: a message is refused as stale under the limits that
its age exceeds. A message without an age is refused for its form, or its timestamp is ahead of the
clock, and then no limit makes it stale.

## Main definitions

* `OneTimeSignature.Check.form` — the checks of the form of a message
* `Request.IsMalformed`, `Request.IsAhead` — the two ways in which a message has no age
* `OneTimeSignature.AgeTells` — what the age of a message tells about its verification

## Main results

* `OneTimeSignature.signatureAge?_eq` — the two readers agree
* `OneTimeSignature.form_cases` — a message is malformed, or it is taken apart
* `OneTimeSignature.age_agrees_with_verify` — the age agrees with verification
-/

namespace SealedLink.OneTimeSignature

/-! ### Two readers of one message -/

/-- The age is that of the message which verification takes apart. -/
theorem signatureAge?_eq (now : Timestamp) (signed : Bytes) :
    signatureAge? now signed =
      (SignedMessage.parse signed).toOption.bind fun m => m.content.timestamp.ageAt? now := by
  unfold SignedMessage.parse
  cases split : Octets.split? SignedMessage.macSize signed with
  | none =>
    rw [signatureAge?, if_pos (Octets.split?_eq_none_iff.mp split)]
    rfl
  | some parts =>
    obtain ⟨mac, packed⟩ := parts
    obtain rfl : signed = mac.toBytes ++ packed := Octets.eq_append_of_split? split
    have whole : ¬ (mac.toBytes ++ packed).length < SignedMessage.macSize := by
      simp [SignedMessage.macSize]
    have rest : (mac.toBytes ++ packed).drop SignedMessage.macSize = packed :=
      List.drop_left' mac.length_eq
    -- behind the code both readers unpack the same bytes
    rw [signatureAge?, if_neg whole, rest]
    dsimp only
    cases StampedData.unpack packed <;> rfl

/-! ### Messages without an age -/

/-- The checks of the form of a message: its two lengths and its timestamp. -/
def Check.form : List Check := [codeLength, stampLength, timestamp]

/-- The fields that are named when the form of a message is wrong. -/
def formFields : List String := ["signature", "signed data", "timestamp"]

namespace Request

/-- The form of the message is wrong. -/
def IsMalformed (q : Request) : Prop := ∃ c ∈ Check.form, ¬ c.Passes q

/-- The message is well formed, and its timestamp is ahead of the clock. -/
def IsAhead (q : Request) : Prop := (∀ c ∈ Check.form, c.Passes q) ∧ q.now.ticks < q.ticks

end Request

variable {q : Request}

theorem exists_error_eq_invalidInput {c : Check} (h : c ∈ Check.form) (q : Request) :
    ∃ field ∈ formFields, ∃ reason, c.error q = .invalidInput field reason := by
  cases c with
  | codeLength => exact ⟨"signature", by decide, _, rfl⟩
  | stampLength => exact ⟨"signed data", by decide, _, rfl⟩
  | timestamp => exact ⟨"timestamp", by decide, _, rfl⟩
  | age | nonce | code => exact absurd h (by decide)

/-- A malformed message fails with the error of the first check of its form that fails; any other
message is taken apart. -/
theorem form_cases (q : Request) :
    (q.IsMalformed ∧ ∃ field ∈ formFields, ∃ reason,
        judge q Check.form = .error (.invalidInput field reason) ∧
          SignedMessage.parse q.signed = .error (.invalidInput field reason)) ∨
      (∀ c ∈ Check.form, c.Passes q) ∧
        ∃ m, SignedMessage.parse q.signed = .ok m ∧ IsMessageOf q m := by
  rcases parse_cases q with ⟨e, unparsed, outcome⟩ | ⟨m, parsed, parts, outcome⟩
  · have judged : judge q Check.form = .error e := outcome []
    obtain ⟨passed, c, later, place, -, fails, rfl⟩ := judge_eq_error_iff.mp judged
    have member : c ∈ Check.form := by simp [place]
    obtain ⟨field, named, reason, shown⟩ := exists_error_eq_invalidInput member q
    rw [shown] at judged unparsed
    exact .inl ⟨⟨c, member, fails⟩, field, named, reason, judged, unparsed⟩
  · have judged : judge q Check.form = .ok (q.signed.drop 72) := outcome []
    exact .inr ⟨(judge_eq_ok_iff.mp judged).1, m, parsed, parts⟩

theorem not_isMalformed_of_passes (h : ∀ c ∈ Check.form, c.Passes q) : ¬ q.IsMalformed := by
  rintro ⟨c, member, fails⟩
  exact fails (h c member)

/-- There is no age exactly if the form is wrong or the timestamp is ahead of the clock. -/
theorem signatureAge?_eq_none_iff :
    signatureAge? q.now q.signed = none ↔ q.IsMalformed ∨ q.IsAhead := by
  rw [signatureAge?_eq]
  rcases form_cases q with ⟨malformed, _, -, _, -, unparsed⟩ | ⟨passes, m, parsed, parts⟩
  · rw [unparsed]
    exact iff_of_true rfl (.inl malformed)
  · have ahead : m.content.timestamp.ageAt? q.now = none ↔ q.IsAhead := by
      rw [Timestamp.ageAt?_eq_none_iff, parts.ticks]
      exact ⟨fun future => ⟨passes, future⟩, And.right⟩
    rw [parsed, or_iff_right (not_isMalformed_of_passes passes)]
    exact ahead

/-! ### What the age tells -/

section Verification

variable {σ : Type} [NonceStore σ]

theorem verify_of_parse_error {signed : Bytes} {e : LaunchError}
    (unparsed : SignedMessage.parse signed = .error e) (maxAge : Duration) (now : Timestamp)
    (key : Bytes) (store : σ) : verify maxAge now signed key store = (.error e, store) := by
  simp only [verify, unparsed]

/-- What the age of a message tells about its verification with a store, whatever this answers. -/
structure AgeTells (q : Request) (store : σ) : Prop where
  /-- A message is refused as stale exactly if it has an age that exceeds the limit. -/
  stale : ∀ age limit,
    (verify q.maxAge q.now q.signed q.key store).1 = .error (.stale age limit) ↔
      signatureAge? q.now q.signed = some age ∧ q.maxAge < age ∧ limit = q.maxAge
  ageless : signatureAge? q.now q.signed = none ↔ q.IsMalformed ∨ q.IsAhead
  /-- A malformed message is refused for the first check of its form that fails. -/
  malformed : q.IsMalformed → ∃ field ∈ formFields, ∃ reason,
    judge q Check.form = .error (.invalidInput field reason) ∧
      verify q.maxAge q.now q.signed q.key store = (.error (.invalidInput field reason), store)
  /-- No limit makes a message stale whose timestamp is ahead of the clock. -/
  ahead : q.IsAhead → ∀ maxAge age limit,
    (verify maxAge q.now q.signed q.key store).1 ≠ .error (.stale age limit)

theorem verify_eq_stale_iff_signatureAge? (maxAge : Duration) (now : Timestamp)
    (signed key : Bytes) (store : σ) {age limit : Duration} :
    (verify maxAge now signed key store).1 = .error (.stale age limit) ↔
      signatureAge? now signed = some age ∧ maxAge < age ∧ limit = maxAge := by
  rw [signatureAge?_eq]
  rcases form_cases ⟨signed, key, now, maxAge, []⟩ with
    ⟨-, field, -, reason, -, unparsed⟩ | ⟨-, m, parsed, -⟩
  · dsimp only at unparsed
    rw [verify_of_parse_error unparsed, unparsed]
    simp [Except.toOption]
  · rw [verify_eq_stale_iff parsed, Timestamp.staleAge?_eq_some_iff, and_assoc]
    dsimp only at parsed
    rw [parsed]
    rfl

/-- **The age agrees with verification.** For every message, key, clock and limit and every store, a
message is refused as stale exactly with its age, if that exceeds the limit. If it has no age, it is
refused for its form or ahead of the clock, and in this case it is not stale under any limit. -/
theorem age_agrees_with_verify (q : Request) (store : σ) : AgeTells q store where
  stale _ _ := verify_eq_stale_iff_signatureAge? _ _ _ _ _
  ageless := signatureAge?_eq_none_iff
  malformed malformed := by
    rcases form_cases q with ⟨-, field, named, reason, judged, unparsed⟩ | ⟨passes, -⟩
    · exact ⟨field, named, reason, judged, verify_of_parse_error unparsed _ _ _ _⟩
    · exact absurd malformed (not_isMalformed_of_passes passes)
  ahead ahead maxAge age limit stale := by
    obtain ⟨aged, -⟩ := (verify_eq_stale_iff_signatureAge? _ _ _ _ _).mp stale
    rw [signatureAge?_eq_none_iff.mpr (.inr ahead)] at aged
    cases aged

end Verification

/-- A clock that has gone far beyond the last year stops at its end. There a message from the first
tick has an age of a hundred nanoseconds for every tick in between, and it is refused with this
age. -/
theorem age_stops_at_last_tick :
    let last := Timestamp.ofInstant (Instant.epoch.after (Duration.ofSeconds 1000000000000))
    let age : Duration := ⟨315537897599999999900⟩
    signatureAge? last (List.replicate 72 0) = some age ∧ defaultMaxAge < age ∧
      (verify defaultMaxAge last (List.replicate 72 0) [] (Fifo.empty : Fifo NonceRecord)).1 =
        .error (.stale age defaultMaxAge) := by
  intro last age
  have aged : signatureAge? last (List.replicate 72 0) = some age := by decide
  have old : defaultMaxAge < age := by decide
  have tells := age_agrees_with_verify ⟨List.replicate 72 0, [], last, defaultMaxAge, []⟩
    (Fifo.empty : Fifo NonceRecord)
  exact ⟨aged, old, (tells.stale age defaultMaxAge).mpr ⟨aged, old, rfl⟩⟩

end SealedLink.OneTimeSignature
