import SealedLink.Proofs.OneTimeSignature.Verification
import SealedLink.Proofs.Time.Words

/-!
# Two uses of the age of a message

The age of a message is asked for twice: before its nonce is looked up, to refuse what is stale, and
when records leave the store, to drop what could not be accepted again. Both compare the same number
of nanoseconds in the same way, so a message is refused for its age exactly if its record would be
expired. That number is exact, whichever words it is computed in, and it grows with the clock.

## Main definitions

* `Timestamp.CountsAge` — the age of a timestamp is its distance from the clock
* `OneTimeSignature.JudgesAge` — expiry and refusal are one comparison of that distance with a limit

## Main results

* `Timestamp.isExpired_of_le` — what is expired stays expired at a later time, under a smaller limit
  and with an earlier timestamp
* `Timestamp.exists_ageAt?_add` — ages add up
* `OneTimeSignature.verify_eq_stale_iff` — when a message is refused for its age
* `OneTimeSignature.freshness_is_exact` — exact ages, used alike
-/

namespace SealedLink

/-! ### The age of a timestamp -/

namespace Timestamp

variable {t between now : Timestamp}

/-- The age of a timestamp counts a hundred nanoseconds for every tick up to the clock, there is
none for one in the future, and nothing is lost on the way to its seconds and nanoseconds. -/
structure CountsAge (t now : Timestamp) : Prop where
  future : t.ageAt? now = none ↔ now.ticks < t.ticks
  past : ∀ age, t.ageAt? now = some age ↔
    t.ticks ≤ now.ticks ∧ (age.nanos : Int) = 100 * ((now.ticks : Int) - t.ticks)
  inWords : t.ageInWords now = .ok ((t.ageAt? now).map Duration.stored)
  subsecond : ∀ age, t.ageAt? now = some age → age.stored.nanos < 1000000000

theorem ageAt?_eq_none_iff : t.ageAt? now = none ↔ now.ticks < t.ticks := by
  unfold ageAt?
  by_cases past : t.ticks ≤ now.ticks
  · rw [if_pos past]
    exact iff_of_false (Option.some_ne_none _) (Nat.not_lt.mpr past)
  · rw [if_neg past]
    exact iff_of_true rfl (Nat.not_le.mp past)

theorem countsAge (t now : Timestamp) : CountsAge t now where
  future := ageAt?_eq_none_iff
  past age := by
    have counted (past : t.ticks ≤ now.ticks) :
        age = ⟨(now.ticks - t.ticks) * nanosPerTick⟩ ↔
          (age.nanos : Int) = 100 * ((now.ticks : Int) - t.ticks) := by
      cases age
      simp only [Duration.mk.injEq, nanosPerTick]
      omega
    rw [ageAt?_eq_some_iff]
    exact and_congr_right counted
  inWords := ageInWords_eq t now
  subsecond age _ := Int.ofNat_lt.mpr age.subsecNanos_lt

theorem isExpired_iff_exists_staleAge? {maxAge : Duration} :
    t.isExpired now maxAge = true ↔ ∃ age, t.staleAge? now maxAge = some age := by
  rw [← Option.ne_none_iff_exists', Ne, staleAge?_eq_none_iff, Bool.not_eq_false]

/-- What is expired stays expired at a later time, under a smaller limit and with an earlier
timestamp. -/
theorem isExpired_of_le {earlier later : Timestamp} {maxAge less : Duration}
    (stamp : earlier.ticks ≤ t.ticks) (clock : now.ticks ≤ later.ticks) (limit : less ≤ maxAge)
    (expired : t.isExpired now maxAge = true) : earlier.isExpired later less = true := by
  have aged : earlier.isExpired now maxAge = true := by
    rw [isExpired_iff] at expired ⊢
    exact Nat.lt_of_lt_of_le expired (Nat.mul_le_mul_right _ (Nat.sub_le_sub_left stamp _))
  exact isExpired_mono clock limit aged

theorem exists_ageAt?_add (h : t.ticks ≤ between.ticks) (h' : between.ticks ≤ now.ticks) :
    ∃ first second, t.ageAt? between = some first ∧ between.ageAt? now = some second ∧
      t.ageAt? now = some (first + second) := by
  refine ⟨_, _, ageAt?_eq_some_iff.mpr ⟨h, rfl⟩, ageAt?_eq_some_iff.mpr ⟨h', rfl⟩,
    ageAt?_eq_some_iff.mpr ⟨Nat.le_trans h h', congrArg Duration.mk ?_⟩⟩
  calc (between.ticks - t.ticks) * nanosPerTick + (now.ticks - between.ticks) * nanosPerTick
    _ = (between.ticks - t.ticks + (now.ticks - between.ticks)) * nanosPerTick :=
      (Nat.add_mul _ _ _).symm
    _ = (now.ticks - t.ticks) * nanosPerTick := by
      rw [show between.ticks - t.ticks + (now.ticks - between.ticks) = now.ticks - t.ticks by omega]

end Timestamp

/-! ### The age of a message -/

namespace OneTimeSignature

variable {σ : Type} [NonceStore σ] {maxAge : Duration} {now : Timestamp} {signed : Bytes}
  {m : SignedMessage}

/-- A well-formed message is refused as stale for its age only, whatever the key and the store. -/
theorem verify_eq_stale_iff (parsed : SignedMessage.parse signed = .ok m) (key : Bytes) (store : σ)
    {age limit : Duration} :
    (verify maxAge now signed key store).1 = .error (.stale age limit) ↔
      m.content.timestamp.staleAge? now maxAge = some age ∧ limit = maxAge := by
  cases stale : m.content.timestamp.staleAge? now maxAge with
  | some found =>
    simp only [verify, parsed, stale]
    simp [eq_comm]
  | none =>
    -- the later checks have errors of their own
    by_cases seen : NonceStore.contains m.content.nonce store = true
    · simp [verify, parsed, stale, seen]
    · by_cases authentic : m.mac = hmac key m.packed
      · cases admitted : NonceStore.enqueueIfAbsent m.content.record store with
        | mk added next =>
          cases added <;>
            simp [verify, parsed, stale, seen, SignedMessage.authenticate_eq, authentic, admitted]
      · simp [verify, parsed, stale, seen, SignedMessage.authenticate_eq, authentic]

theorem exists_verify_eq_stale_iff (parsed : SignedMessage.parse signed = .ok m) (key : Bytes)
    (store : σ) :
    (∃ age limit, (verify maxAge now signed key store).1 = .error (.stale age limit)) ↔
      m.content.record.isExpired now maxAge = true := by
  rw [NonceRecord.isExpired, Timestamp.isExpired_iff_exists_staleAge?]
  constructor
  · rintro ⟨age, limit, stale⟩
    exact ⟨age, ((verify_eq_stale_iff parsed key store).mp stale).1⟩
  · rintro ⟨age, stale⟩
    exact ⟨age, maxAge, (verify_eq_stale_iff parsed key store).mpr ⟨stale, rfl⟩⟩

/-- The expiry of a record is a comparison of the exact age with the limit, in words as in numbers,
and it is what refuses a message with that record as stale. -/
structure JudgesAge (now : Timestamp) (maxAge : Duration) (r : NonceRecord) : Prop where
  exceeds : r.isExpired now maxAge = true ↔
    (maxAge.nanos : Int) < 100 * ((now.ticks : Int) - r.timestamp.ticks)
  inWords : r.timestamp.isExpiredInWords now maxAge.stored = .ok (r.isExpired now maxAge)
  refuses : ∀ {σ : Type} [NonceStore σ] (store : σ) (key signed : Bytes) (m : SignedMessage),
    SignedMessage.parse signed = .ok m → m.content.record = r →
      ((∃ age limit, (verify maxAge now signed key store).1 = .error (.stale age limit)) ↔
        r.isExpired now maxAge = true)

theorem judgesAge (now : Timestamp) (maxAge : Duration) (r : NonceRecord) :
    JudgesAge now maxAge r where
  exceeds := by
    rw [NonceRecord.isExpired, Timestamp.isExpired_iff, Timestamp.nanosPerTick]
    omega
  inWords := Timestamp.isExpiredInWords_eq r.timestamp now maxAge
  refuses store key signed m parsed same := by
    rw [← same]
    exact exists_verify_eq_stale_iff parsed key store

/-- Ages are exact, and a message is refused as stale exactly if its record is expired. Expiry does
not end with time, with a smaller limit or with an earlier timestamp, and ages add up. -/
theorem freshness_is_exact :
    (∀ t now : Timestamp, Timestamp.CountsAge t now) ∧
      (∀ (now : Timestamp) (maxAge : Duration) (r : NonceRecord), JudgesAge now maxAge r) ∧
      (∀ (t earlier now later : Timestamp) (maxAge less : Duration),
        earlier.ticks ≤ t.ticks → now.ticks ≤ later.ticks → less ≤ maxAge →
          t.isExpired now maxAge = true → earlier.isExpired later less = true) ∧
      ∀ t between now : Timestamp, t.ticks ≤ between.ticks → between.ticks ≤ now.ticks →
        ∃ first second, t.ageAt? between = some first ∧ between.ageAt? now = some second ∧
          t.ageAt? now = some (first + second) :=
  ⟨Timestamp.countsAge, judgesAge, fun _ _ _ _ _ _ => Timestamp.isExpired_of_le,
    fun _ _ _ => Timestamp.exists_ageAt?_add⟩

/-- Seventy-two zero bytes are a message from the first tick. A tick after the default limit it is
refused as stale, and so it is a tick later. -/
theorem stale_one_tick_after_limit :
    let first : Timestamp := ⟨0, by decide⟩
    let now : Timestamp := ⟨300000001, by decide⟩
    let later : Timestamp := ⟨300000002, by decide⟩
    let store : Fifo NonceRecord := Fifo.empty
    first.isExpired now defaultMaxAge = true ∧ first.isExpired later defaultMaxAge = true ∧
      (∃ age limit, (verify defaultMaxAge now (List.replicate 72 0) [] store).1 =
        .error (.stale age limit)) ∧
      ∃ past next, first.ageAt? now = some past ∧ now.ageAt? later = some next ∧
        first.ageAt? later = some (past + next) := by
  intro first now later store
  obtain ⟨-, judged, lasting, added⟩ := freshness_is_exact
  have expired : first.isExpired now defaultMaxAge = true := by decide
  refine ⟨expired, lasting first first now later _ _ (by decide) (by decide) (by decide) expired,
    ?_, added first now later (by decide) (by decide)⟩
  exact ((judged now defaultMaxAge _).refuses store [] (List.replicate 72 0) _ rfl rfl).mpr expired

end OneTimeSignature

end SealedLink
