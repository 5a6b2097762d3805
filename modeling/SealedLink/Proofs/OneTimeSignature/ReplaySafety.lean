import SealedLink.Proofs.OneTimeSignature.Run
import SealedLink.Proofs.OneTimeSignature.Signing

/-!
# Replay safety

A message is accepted at most once, although its record does not stay in the store for ever. A
record leaves only when it is expired, and while the clock does not go back and the limit does not
grow, what is expired stays expired. So for every accepted message its record is queued, which
refuses a replay for its nonce, or each coming call finds the message too old.

## Main definitions

* `OneTimeSignature.Steady` — in a run the clock does not go back and the limit does not grow
* `OneTimeSignature.Spent` — a record cannot be accepted in the calls to come
* `OneTimeSignature.AcceptsOnce` — in every steady run from a store each message is accepted at most
  once

## Main results

* `OneTimeSignature.spent_perform` — a step leaves a spent record spent
* `OneTimeSignature.acceptsOnce_of_consistent` — replay safety of every record store
* `OneTimeSignature.replay_safety` — replay safety of the three kinds of store
-/

namespace SealedLink.OneTimeSignature

open RecordStore (records Consistent)

/-- Between the calls of a run the clock does not go back and the limit does not grow. -/
def Steady (actions : List Action) : Prop :=
  (calls actions).Pairwise fun c d => c.clock.nanos ≤ d.clock.nanos ∧ d.maxAge ≤ c.maxAge

/-- A record cannot be accepted in the calls to come: it is queued, or every call finds it too old.
-/
def Spent {σ : Type} [NonceStore σ] [RecordStore σ] (r : NonceRecord) (coming : List Action)
    (s : σ) : Prop :=
  r ∈ records s ∨ ∀ c ∈ calls coming, c.expires r = true

/-- In every steady run from a store, each byte string is accepted at most once, and so is each pair
of a nonce and a timestamp. -/
def AcceptsOnce {σ : Type} [NonceStore σ] (s : σ) : Prop :=
  ∀ actions, Steady actions →
    (∀ signed, (accepted actions s).countP (·.signed = signed) ≤ 1) ∧
      ∀ nonce timestamp, (accepted actions s).countP (·.record? = some ⟨nonce, timestamp⟩) ≤ 1

variable {a : Action} {actions : List Action} {r : NonceRecord}

/-! ### Steady runs -/

theorem Steady.tail (h : Steady (a :: actions)) : Steady actions := by
  cases a with
  | verify c => exact (List.pairwise_cons.mp h).2
  | enqueue | enqueueIfAbsent => exact h

/-- In a steady run, a record that one call finds too old is too old for all calls after it. -/
theorem Steady.expires_of_expires {c : Call} (h : Steady (.verify c :: actions))
    (expired : c.expires r = true) : ∀ d ∈ calls actions, d.expires r = true := by
  intro d member
  obtain ⟨clock, limit⟩ := (List.pairwise_cons.mp h).1 d member
  exact Timestamp.isExpired_mono (Timestamp.ticks_ofInstant_mono clock) limit expired

/-! ### Spent records -/

variable {σ : Type} [NonceStore σ] [RecordStore σ] {s : σ}

/-- After an acceptance every record that was queued or just added is spent: those that left are
expired. -/
theorem spent_of_accepts {c : Call} {added : List NonceRecord} {s' : σ}
    (steady : Steady (.verify c :: actions))
    (left : records s' = (records s ++ added).dropWhile c.expires)
    (member : r ∈ records s ++ added) :
    Spent r actions s' := by
  rcases mem_dropWhile_or (p := c.expires) member with queued | expired
  · exact .inl (left ▸ queued)
  · exact .inr (steady.expires_of_expires expired)

/-- A spent record stays spent. -/
theorem spent_perform (h : Consistent s) (steady : Steady (a :: actions))
    (spent : Spent r (a :: actions) s) : Spent r actions (a.perform s).2 := by
  -- a queued record may leave in this step, but only as an expired one
  rcases spent with queued | expired
  · rcases perform_cases a h with ⟨-, added, grown⟩ | ⟨c, r', rfl, -, -, -, -, left⟩
    · exact .inl (grown ▸ List.mem_append_left _ queued)
    · exact spent_of_accepts steady left (List.mem_append_left _ queued)
  · refine .inr fun c member => expired c ?_
    cases a with
    | verify d => exact List.mem_cons_of_mem _ member
    | enqueue | enqueueIfAbsent => exact member

/-- A step does not accept a spent record. -/
theorem record?_ne_of_spent (h : Consistent s) (spent : Spent r (a :: actions) s) {c : Call}
    (accepts : (a.perform s).1 = some c) : c.record? ≠ some r := by
  intro carried
  rcases perform_cases a h with ⟨nothing, -⟩ | ⟨d, r', rfl, accepts', carried', fresh, absent, -⟩
  · rw [nothing] at accepts
    cases accepts
  · obtain rfl : d = c := Option.some.inj (accepts'.symm.trans accepts)
    obtain rfl : r' = r := Option.some.inj (carried'.symm.trans carried)
    -- acceptance asks for a nonce that is not queued and a timestamp that is not expired
    rcases spent with queued | expired
    · exact absent (List.mem_map_of_mem queued)
    · rw [expired d List.mem_cons_self] at fresh
      cases fresh

/-- A run does not accept a spent record. -/
theorem record?_ne_of_mem_accepted (h : Consistent s) (steady : Steady actions)
    (spent : Spent r actions s) : ∀ c ∈ accepted actions s, c.record? ≠ some r := by
  induction actions generalizing s with
  | nil => exact fun _ member => absurd member List.not_mem_nil
  | cons a actions ih =>
    intro c member
    rcases List.mem_append.mp member with now | later
    · exact record?_ne_of_spent h spent (Option.mem_toList.mp now)
    · exact ih (consistent_perform a h) steady.tail (spent_perform h steady spent) c later

/-! ### At most one acceptance -/

/-- A run accepts a record at most once: from its first acceptance on it is spent. -/
theorem countP_record?_le_one (h : Consistent s) (steady : Steady actions) (r : NonceRecord) :
    (accepted actions s).countP (·.record? = some r) ≤ 1 := by
  induction actions generalizing s with
  | nil => exact Nat.zero_le 1
  | cons a actions ih =>
    -- if this step accepts the record, it is spent from here on and not counted again
    have rest := ih (consistent_perform a h) steady.tail
    rw [accepted, List.countP_append]
    rcases perform_cases a h with ⟨nothing, -⟩ | ⟨c, r', rfl, accepts, carried, -, -, left⟩
    · simpa [nothing] using rest
    · by_cases same : c.record? = some r
      · obtain rfl : r' = r := Option.some.inj (carried.symm.trans same)
        have spent : Spent r' actions ((Action.verify c).perform s).2 :=
          spent_of_accepts steady left (List.mem_append_right _ (List.mem_singleton.mpr rfl))
        have never := record?_ne_of_mem_accepted (consistent_perform _ h) steady.tail spent
        have none_later : (accepted actions ((Action.verify c).perform s).2).countP
            (·.record? = some r') = 0 :=
          List.countP_eq_zero.mpr fun d member => by simpa using never d member
        simp [accepts, same, none_later]
      · simpa [accepts, same] using rest

theorem acceptsOnce_of_consistent (h : Consistent s) : AcceptsOnce s := by
  intro actions steady
  refine ⟨?_, fun nonce timestamp => countP_record?_le_one h steady ⟨nonce, timestamp⟩⟩
  intro signed
  by_cases found : ∃ c ∈ accepted actions s, c.signed = signed
  · obtain ⟨c, member, rfl⟩ := found
    obtain ⟨r, carried⟩ := exists_record?_of_mem_accepted h member
    -- equal messages carry equal records, so the messages are counted among the records
    calc (accepted actions s).countP (·.signed = c.signed)
      _ ≤ (accepted actions s).countP (·.record? = some r) := by
        refine List.countP_mono_left fun d _ same => ?_
        rw [decide_eq_true_eq] at same ⊢
        rw [Call.record?_eq_of_signed_eq same, carried]
      _ ≤ 1 := countP_record?_le_one h steady r
  · have none_found : (accepted actions s).countP (·.signed = signed) = 0 :=
      List.countP_eq_zero.mpr fun c member => by simpa using fun same => found ⟨c, member, same⟩
    rw [none_found]
    exact Nat.zero_le 1

/-- **Replay safety.** Take any run of verifications, with arbitrary messages and keys, and of
additions to the store, in which the clock does not go back and the limit does not grow. Each byte
string is accepted at most once, and so is each pair of a nonce and a timestamp. This holds from
every consistent indexed store, from every plain queue, and even if `contains` never admits to
holding a nonce. -/
theorem replay_safety :
    (∀ s : IndexedStore, s.Consistent → AcceptsOnce s) ∧
      (∀ s : Fifo NonceRecord, AcceptsOnce s) ∧
      ∀ s : BlindStore, s.inner.Consistent → AcceptsOnce s :=
  ⟨fun _ h => acceptsOnce_of_consistent h,
    fun s => acceptsOnce_of_consistent (s := s) trivial,
    fun _ h => acceptsOnce_of_consistent h⟩

/-- What is signed at the epoch, without data. -/
def epochContent : StampedData := ⟨Timestamp.ofInstant Instant.epoch, Octets.zero 32, []⟩

/-- The message that is signed at the epoch, verified some seconds later. -/
def resent (seconds : Nat) : Call where
  clock := Instant.epoch.after (Duration.ofSeconds seconds)
  maxAge := defaultMaxAge
  signed := signWith [] epochContent
  key := []

/-- A record that is long expired. -/
def oldRecord : NonceRecord := ⟨⟨List.replicate 32 1, rfl⟩, ⟨0, Nat.zero_le _⟩⟩

/-- A message is sent, then resent at the limit of its age and beyond it, after an old record. -/
def resending : List Action :=
  [.enqueue oldRecord, .verify (resent 0), .verify (resent 30), .verify (resent 31)]

/-- The first sending is accepted, and no other. -/
theorem resending_accepts_once :
    IndexedStore.empty.Consistent ∧ Steady resending ∧
      resent 0 ∈ accepted resending IndexedStore.empty ∧
      (accepted resending IndexedStore.empty).countP (·.signed = (resent 0).signed) = 1 := by
  have steady : Steady resending := by
    simp only [Steady, resending, calls]
    decide
  have bounded :=
    (replay_safety.1 IndexedStore.empty IndexedStore.consistent_empty resending steady).1
      (resent 0).signed
  -- the message is fresh and its nonce is not that of the old record
  let s := IndexedStore.empty.push oldRecord
  have consistent : s.Consistent := IndexedStore.consistent_empty.push oldRecord
  have fresh : epochContent.timestamp.staleAge? (resent 0).now defaultMaxAge = none := by decide
  have new : epochContent.nonce ∉ s.toList.map NonceRecord.nonce := by decide
  have unseen : NonceStore.contains epochContent.nonce s = false :=
    (FaithfulStore.contains_eq_decide consistent).trans (decide_eq_false new)
  obtain ⟨left, accepts, -, -⟩ := verify_signWith_of_fresh consistent fresh new unseen
  have performed : (Action.verify (resent 0)).perform s = (some (resent 0), left) := by
    have answered : (resent 0).answer s = (.ok [], left) := accepts
    simp only [Action.perform, answered]
  have member : resent 0 ∈ accepted resending IndexedStore.empty := by
    refine List.mem_append_right _ (List.mem_append_left _ ?_)
    rw [Option.mem_toList]
    exact congrArg Prod.fst performed
  have reached : 0 <
      (accepted resending IndexedStore.empty).countP (·.signed = (resent 0).signed) :=
    List.countP_pos_iff.mpr ⟨resent 0, member, decide_eq_true rfl⟩
  exact ⟨IndexedStore.consistent_empty, steady, member, Nat.le_antisymm bounded reached⟩

end SealedLink.OneTimeSignature
