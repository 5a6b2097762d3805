import Mathlib.Data.List.DropRight
import SealedLink.Proofs.OneTimeSignature.Effect

/-!
# The order of verification within a batch

Every acceptance purges the queue that the next message is checked against. Still the messages of a
batch, each with a nonce of its own, do not get in each other's way if they are verified at one
time. What a purge takes away is expired. If it has the nonce of a later message, it has the
timestamp of that message too, so the message is refused for its age whether or not its nonce is
still queued. Each message gets the answer that it would get alone, and only the new records of the
store are in the order of verification.

## Main definitions

* `OneTimeSignature.IsBatch` — calls with nonces of their own, at one time and with one limit
* `OneTimeSignature.remaining` — what remains of a queue to which records have been added

## Main results

* `OneTimeSignature.answer_fst_congr` — an answer depends on the store by the nonce of a fresh message
* `IsBatch.answer_fst`, `IsBatch.answer` — a call leaves the answers to the others as they are
* `IsBatch.answers_eq`, `IsBatch.log_eq` — each call of a batch is answered as if it were alone
* `OneTimeSignature.records_storeAfter` — the store after calls with one time and one limit
* `OneTimeSignature.batch_in_any_order` — two orders of one batch
-/

namespace SealedLink.OneTimeSignature

open RecordStore (records Consistent)

/-- A batch of calls for a queue. All are made at one time with one limit, each with a key of its
own, and their messages are well formed, authentic or not. No two carry the same nonce, and a queued
record with the nonce of a message has the timestamp of that message too. -/
structure IsBatch (clock : Instant) (maxAge : Duration) (batch : List Call)
    (queue : List NonceRecord) : Prop where
  clock_eq : ∀ c ∈ batch, c.clock = clock
  maxAge_eq : ∀ c ∈ batch, c.maxAge = maxAge
  wellFormed : ∀ c ∈ batch, ∃ r, c.record? = some r
  distinct : ((batch.filterMap Call.record?).map NonceRecord.nonce).Nodup
  timestamp_eq : ∀ r ∈ batch.filterMap Call.record?, ∀ q ∈ queue, q.nonce = r.nonce →
    q.timestamp = r.timestamp

/-- What remains of a queue to which records have been added: everything if there are none,
otherwise what is left when the longest expired initial part has gone. -/
def remaining (expired : NonceRecord → Bool) (queue added : List NonceRecord) : List NonceRecord :=
  if added = [] then queue else queue.dropWhile expired

variable {σ : Type} [NonceStore σ] [FaithfulStore σ] {s s' : σ}
variable {c : Call} {batch order : List Call} {clock : Instant} {maxAge : Duration}

/-! ### What an answer depends on -/

/-- Two stores give the same answer to a message if its nonce is queued in both or in neither, and
to a message that is too old in any case. -/
theorem answer_fst_congr (h : Consistent s) (h' : Consistent s') {r : NonceRecord}
    (carried : c.record? = some r)
    (alike : c.expires r = false →
      (r.nonce ∈ (records s).map NonceRecord.nonce ↔
        r.nonce ∈ (records s').map NonceRecord.nonce)) :
    (c.answer s).1 = (c.answer s').1 := by
  obtain ⟨m, parsed, rfl⟩ := Call.record?_eq_some_iff.mp carried
  have parts : IsMessageOf (c.request (records s)) m := isMessageOf_of_parse parsed
  have parts' : IsMessageOf (c.request (records s')) m := isMessageOf_of_parse parsed
  have nonce (young : Check.age.Passes (c.request (records s))) :
      Check.nonce.Passes (c.request (records s)) ↔ Check.nonce.Passes (c.request (records s')) := by
    have fresh : c.expires m.content.record = false :=
      Timestamp.staleAge?_eq_none_iff.mp (parts.age_passes_iff.mp young)
    rw [parts.nonce_passes_iff, parts'.nonce_passes_iff]
    exact not_congr (alike fresh)
  rw [answer_fst_eq_judge c h, answer_fst_eq_judge c h']
  -- the two requests differ in the records, and these are looked at behind the check of the age
  simp only [Check.order, judge]
  refine if_congr Iff.rfl (if_congr Iff.rfl (if_congr Iff.rfl ?_ rfl) rfl) rfl
  by_cases young : Check.age.Passes (c.request (records s))
  · have young' : Check.age.Passes (c.request (records s')) := young
    rw [if_pos young, if_pos young']
    exact if_congr (nonce young) rfl rfl
  · have old : ¬ Check.age.Passes (c.request (records s')) := young
    rw [if_neg young, if_neg old]
    rfl

/-! ### One call of a batch -/

namespace IsBatch

theorem perm {queue : List NonceRecord} (h : IsBatch clock maxAge batch queue)
    (reordered : order.Perm batch) : IsBatch clock maxAge order queue := by
  have carried := reordered.filterMap Call.record?
  refine ⟨?_, ?_, ?_, ?_, ?_⟩
  · exact fun c member => h.clock_eq c (reordered.mem_iff.mp member)
  · exact fun c member => h.maxAge_eq c (reordered.mem_iff.mp member)
  · exact fun c member => h.wellFormed c (reordered.mem_iff.mp member)
  · exact (carried.map NonceRecord.nonce).nodup_iff.mpr h.distinct
  · exact fun r member => h.timestamp_eq r (carried.mem_iff.mp member)

/-- All calls of a batch find the same records expired. -/
theorem expires_eq {queue : List NonceRecord} (h : IsBatch clock maxAge batch queue) :
    ∀ c ∈ batch, c.expires = NonceRecord.isExpired (Timestamp.ofInstant clock) maxAge := by
  intro c member
  funext r
  rw [Call.expires, Call.now, h.clock_eq c member, h.maxAge_eq c member]

/-- A record after the first call of a batch has been there before, or no other call of the batch
carries its nonce. -/
theorem mem_records_or (h : IsBatch clock maxAge (c :: batch) (records s)) (consistent : Consistent s)
    {q : NonceRecord} (queued : q ∈ records (c.answer s).2) :
    q ∈ records s ∨ ∀ r ∈ batch.filterMap Call.record?, q.nonce ≠ r.nonce := by
  rcases answer_cases c consistent with ⟨e, refused⟩ | ⟨data, r, -, carried, -, -, left⟩
  · rw [refused] at queued
    exact .inl queued
  · rw [left] at queued
    rcases List.mem_append.mp ((List.dropWhile_sublist _).subset queued) with old | new
    · exact .inl old
    · obtain rfl := List.mem_singleton.mp new
      have distinct := h.distinct
      rw [List.filterMap_cons_some carried, List.map_cons, List.nodup_cons] at distinct
      exact .inr fun r member same => distinct.1 (same ▸ List.mem_map_of_mem member)

/-- The other calls are a batch for the queue that the first one leaves. -/
theorem answer (h : IsBatch clock maxAge (c :: batch) (records s)) (consistent : Consistent s) :
    IsBatch clock maxAge batch (records (c.answer s).2) := by
  obtain ⟨r, carried⟩ := h.wellFormed c List.mem_cons_self
  have distinct := h.distinct
  have timestamp_eq := h.timestamp_eq
  rw [List.filterMap_cons_some carried] at distinct timestamp_eq
  refine ⟨(List.forall_mem_cons.mp h.clock_eq).2, (List.forall_mem_cons.mp h.maxAge_eq).2,
    (List.forall_mem_cons.mp h.wellFormed).2, (List.nodup_cons.mp distinct).2, ?_⟩
  intro r' member q queued same
  rcases h.mem_records_or consistent queued with old | other
  · exact timestamp_eq r' (List.mem_cons_of_mem r member) q old same
  · exact absurd same (other r' member)

/-- The first call of a batch does not change the answers to the others. -/
theorem answer_fst (h : IsBatch clock maxAge (c :: batch) (records s)) (consistent : Consistent s) :
    ∀ d ∈ batch, (d.answer (c.answer s).2).1 = (d.answer s).1 := by
  intro d member
  obtain ⟨r, carried⟩ := h.wellFormed d (List.mem_cons_of_mem c member)
  have listed : r ∈ batch.filterMap Call.record? := List.mem_filterMap.mpr ⟨d, member, carried⟩
  refine answer_fst_congr (consistent_answer c consistent) consistent carried fun fresh => ?_
  constructor
  · intro queued
    obtain ⟨q, queued, same⟩ := List.mem_map.mp queued
    rcases h.mem_records_or consistent queued with old | other
    · exact List.mem_map.mpr ⟨q, old, same⟩
    · exact absurd same (other r listed)
  · intro queued
    rcases answer_cases c consistent with ⟨e, refused⟩ | ⟨data, r', -, -, -, -, left⟩
    · rw [refused]
      exact queued
    · -- a queued record with this nonce is as young as the message, so the purge leaves it
      obtain ⟨q, queued, same⟩ := List.mem_map.mp queued
      have listed' : r ∈ (c :: batch).filterMap Call.record? :=
        List.mem_filterMap.mpr ⟨d, List.mem_cons_of_mem c member, carried⟩
      have young : c.expires q = false := by
        rw [h.expires_eq c List.mem_cons_self, ← h.expires_eq d (List.mem_cons_of_mem c member),
          Call.expires, NonceRecord.isExpired, h.timestamp_eq r listed' q queued same]
        exact fresh
      rw [left]
      rcases mem_dropWhile_or (p := c.expires) (List.mem_append_left [r'] queued) with kept | expired
      · exact List.mem_map.mpr ⟨q, kept, same⟩
      · rw [young] at expired
        cases expired

/-! ### All calls of a batch -/

/-- Each call of a batch is answered as if it were alone. -/
theorem answers_eq (h : IsBatch clock maxAge batch (records s)) (consistent : Consistent s) :
    Run.answers Call.answer batch s = batch.map fun c => (c.answer s).1 := by
  induction batch generalizing s with
  | nil => rfl
  | cons c batch ih =>
    rw [Run.answers, List.map_cons, ih (h.answer consistent) (consistent_answer c consistent),
      List.map_congr_left (h.answer_fst consistent)]

/-- The log of a batch consists of what its calls would add if they were alone. -/
theorem log_eq (h : IsBatch clock maxAge batch (records s)) (consistent : Consistent s) :
    log batch s = batch.flatMap fun c => log [c] s := by
  induction batch generalizing s with
  | nil => rfl
  | cons c batch ih =>
    have alike : ∀ d ∈ batch, log [d] (c.answer s).2 = log [d] s := by
      intro d member
      rw [log_singleton, log_singleton, h.answer_fst consistent d member]
    rw [log_cons, ih (h.answer consistent) (consistent_answer c consistent), List.flatMap_cons,
      List.flatMap_congr alike]

end IsBatch

/-- After calls with one time and one limit, the queue is what remains of the old one and the records
of the accepted messages in the order of acceptance. -/
theorem records_storeAfter {expired : NonceRecord → Bool} {run : List Call}
    (terms : ∀ c ∈ run, c.expires = expired) (h : Consistent s) :
    records (storeAfter run s) = remaining expired (records s) (log run s) ++ log run s := by
  induction run generalizing s with
  | nil => exact (List.append_nil _).symm
  | cons c run ih =>
    obtain ⟨first, others⟩ := List.forall_mem_cons.mp terms
    rw [log_cons]
    refine (ih others (consistent_answer c h)).trans ?_
    rcases answer_cases c h with ⟨e, refused⟩ | ⟨data, r, accepts, carried, young, -, left⟩
    · rw [log_singleton_of_refused (by rw [refused]), refused, List.nil_append]
    · rw [log_singleton_of_accepted accepts carried, left, first]
      rw [first] at young
      -- what the first purge leaves, with the new record, stays through the later ones
      have stays : remaining expired ((records s ++ [r]).dropWhile expired)
          (log run (c.answer s).2) = (records s).dropWhile expired ++ [r] := by
        unfold remaining
        split
        · exact dropWhile_append_of_young young _
        · rw [List.dropWhile_idempotent expired, dropWhile_append_of_young young]
      rw [stays, List.singleton_append, remaining, if_neg (List.cons_ne_nil _ _),
        List.append_assoc, List.singleton_append]

theorem remaining_suffix (expired : NonceRecord → Bool) (queue added : List NonceRecord) :
    remaining expired queue added <:+ queue := by
  unfold remaining
  split
  · exact List.suffix_refl queue
  · exact List.dropWhile_suffix _

/-- **The order of verification does not matter within a batch.** In any two orders each message
gets the answer that it would get alone. The two stores end up with the same old records in the same
order, and behind them the same new ones, of which only the order may differ. -/
theorem batch_in_any_order {s : IndexedStore} (h : s.Consistent)
    (ready : IsBatch clock maxAge batch s.toList) {order order' : List Call}
    (perm : order.Perm batch) (perm' : order'.Perm batch) :
    (Run.answers Call.answer order s = order.map (fun c => (c.answer s).1) ∧
      Run.answers Call.answer order' s = order'.map (fun c => (c.answer s).1)) ∧
    ∃ kept, kept <:+ s.toList ∧
      (storeAfter order s).toList = kept ++ log order s ∧
      (storeAfter order' s).toList = kept ++ log order' s ∧
      (log order s).Perm (log order' s) := by
  have first : IsBatch clock maxAge order (records s) := ready.perm perm
  have second : IsBatch clock maxAge order' (records s) := ready.perm perm'
  have same : (log order s).Perm (log order' s) := by
    rw [first.log_eq h, second.log_eq h]
    exact (perm.trans perm'.symm).flatMap_right _
  refine ⟨⟨first.answers_eq h, second.answers_eq h⟩, _, remaining_suffix _ _ (log order s),
    records_storeAfter (s := s) first.expires_eq h, ?_, same⟩
  -- the other order adds nothing exactly if this one does
  have nothing : log order s = [] ↔ log order' s = [] := by
    rw [← List.length_eq_zero_iff, ← List.length_eq_zero_iff, same.length_eq]
  refine (records_storeAfter (s := s) second.expires_eq h).trans ?_
  simp only [remaining, nothing]
  rfl

/-- The copy of a message, verified forty-five seconds later. -/
def lateCopy : Call := { trial 1 0 with clock := Instant.epoch.after (Duration.ofSeconds 45) }

/-- Such a copy with two new messages. -/
def lateBatch : List Call := [lateCopy, trial 2 45, trial 3 45]

/-- The store in which the message of the copy is recorded. -/
def copiedStore : IndexedStore := IndexedStore.empty.push (trialRecord 1 0)

theorem isBatch_lateBatch :
    IsBatch (Instant.epoch.after (Duration.ofSeconds 45)) defaultMaxAge lateBatch
      copiedStore.toList := by
  have copied : lateCopy.record? = some (trialRecord 1 0) :=
    (Call.record?_eq_of_signed_eq rfl).trans (record?_trial 1 0)
  have carried : lateBatch.filterMap Call.record? =
      [trialRecord 1 0, trialRecord 2 45, trialRecord 3 45] := by
    simp [lateBatch, copied, record?_trial]
  refine ⟨by simp [lateBatch, lateCopy, trial], by simp [lateBatch, lateCopy, trial], ?_, ?_, ?_⟩
  · simp [lateBatch, copied, record?_trial]
  · rw [carried]
    decide
  · rw [carried]
    decide

/-- If the copy is verified first its record is still queued, and if it is verified last the record
has been purged. It is too old in both cases, and the new messages are accepted. -/
theorem late_copy_is_stale_in_both_orders :
    copiedStore.Consistent ∧
      IsBatch (Instant.epoch.after (Duration.ofSeconds 45)) defaultMaxAge lateBatch
        copiedStore.toList ∧
      lateBatch.reverse.Perm lateBatch ∧
      Run.answers Call.answer lateBatch copiedStore =
        [.error (.stale (Duration.ofSeconds 45) defaultMaxAge), .ok [], .ok []] ∧
      Run.answers Call.answer lateBatch.reverse copiedStore =
        [.ok [], .ok [], .error (.stale (Duration.ofSeconds 45) defaultMaxAge)] ∧
      ∃ kept, kept <:+ copiedStore.toList ∧
        (storeAfter lateBatch copiedStore).toList = kept ++ log lateBatch copiedStore ∧
        (storeAfter lateBatch.reverse copiedStore).toList =
          kept ++ log lateBatch.reverse copiedStore ∧
        (log lateBatch copiedStore).Perm (log lateBatch.reverse copiedStore) := by
  have consistent : copiedStore.Consistent := IndexedStore.consistent_empty.push (trialRecord 1 0)
  have reordered : lateBatch.reverse.Perm lateBatch := List.reverse_perm lateBatch
  obtain ⟨⟨answers, answers'⟩, stores⟩ :=
    batch_in_any_order consistent isBatch_lateBatch (List.Perm.refl lateBatch) reordered
  have stale : (lateCopy.answer copiedStore).1 =
      .error (.stale (Duration.ofSeconds 45) defaultMaxAge) :=
    congrArg Prod.fst (verify_signWith_of_stale (by decide) _)
  have alone : lateBatch.map (fun c => (c.answer copiedStore).1) =
      [.error (.stale (Duration.ofSeconds 45) defaultMaxAge), .ok [], .ok []] := by
    simp only [lateBatch, List.map_cons, List.map_nil, stale,
      (answer_trial consistent 2 45 (by decide)).1, (answer_trial consistent 3 45 (by decide)).1]
  rw [List.map_reverse, alone] at answers'
  exact ⟨consistent, isBatch_lateBatch, reordered, answers.trans alone, answers', stores⟩

end SealedLink.OneTimeSignature
