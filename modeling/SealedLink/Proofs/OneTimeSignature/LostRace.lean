import SealedLink.Proofs.OneTimeSignature.Log
import SealedLink.Proofs.OneTimeSignature.ReplaySafety

/-!
# A verifier that loses every race

Before it compares codes, a verifier asks the store whether the nonce is queued. A store that always
denies this is what a verifier sees whose nonce is recorded by another one in the meantime. Nothing
is lost then: the nonce is looked at again when its record is to be added, so the check of the nonce
only moves behind the check of the code. Runs on both kinds of store accept the same and keep the
same records. They differ in one answer, to a forged message with a queued nonce.

## Main definitions

* `OneTimeSignature.Check.lateOrder` — the order of the checks with the nonce at the end
* `OneTimeSignature.Request.ForgesQueued` — the requests on which the two orders differ
* `OneTimeSignature.SameRecords` — two stores hold the same records

## Main results

* `OneTimeSignature.judge_order_eq_judge_lateOrder` — the two orders agree on all other requests
* `OneTimeSignature.verify_fst_eq_judge_lateOrder` — a store that denies all nonces answers in the
  late order
* `OneTimeSignature.SameRecords.run` — both kinds of store go through a run in step
* `OneTimeSignature.denied_nonces_change_no_acceptance` — runs on both kinds of store
-/

namespace SealedLink.OneTimeSignature

open RecordStore (records Consistent)

/-! ### The nonce before and after the code -/

namespace Check

/-- The checks of the form and the age, which come before those of the nonce and the code. -/
def early : List Check := [codeLength, stampLength, timestamp, age]

theorem order_eq_early_append : order = early ++ [nonce, code] := rfl

/-- The order of the checks if the nonce is looked at last. -/
def lateOrder : List Check := early ++ [code, nonce]

end Check

/-- A message is well formed and fresh and carries a queued nonce, but its code is not the expected
one. -/
def Request.ForgesQueued (q : Request) : Prop :=
  (∀ c ∈ Check.early, c.Passes q) ∧ ¬ Check.nonce.Passes q ∧ ¬ Check.code.Passes q

instance (q : Request) : Decidable q.ForgesQueued :=
  inferInstanceAs (Decidable (_ ∧ _))

variable {q : Request}

theorem judge_append (front back : List Check) :
    judge q (front ++ back) =
      Staged.judge (Check.Passes q) (Check.error q) front (judge q back) := by
  rw [judge_eq_staged, Staged.judge_append, ← judge_eq_staged]

theorem judge_of_forgesQueued (h : q.ForgesQueued) :
    judge q Check.order = .error .replay ∧
      judge q Check.lateOrder = .error (.authenticationFailed "signature mismatch") := by
  obtain ⟨early, queued, forged⟩ := h
  constructor
  · rw [Check.order_eq_early_append, judge_append, Staged.judge_of_passes early, judge,
      if_neg queued]
    rfl
  · rw [Check.lateOrder, judge_append, Staged.judge_of_passes early, judge, if_neg forged]
    rfl

/-- The two orders differ only if both checks that change places fail. -/
theorem judge_order_eq_judge_lateOrder (h : ¬ q.ForgesQueued) :
    judge q Check.order = judge q Check.lateOrder := by
  rw [Check.order_eq_early_append, Check.lateOrder, judge_append, judge_append]
  refine Staged.judge_congr fun early => ?_
  by_cases new : Check.nonce.Passes q
  · simp only [judge, new, if_true]
  · have authentic : Check.code.Passes q := by
      by_contra forged
      exact h ⟨early, new, forged⟩
    simp only [judge, authentic, if_true]

/-! ### A store that denies all nonces -/

section Denied

variable {σ : Type} [NonceStore σ] [RecordStore σ] {s : σ}

/-- A store that denies all nonces answers with the outcome of the checks in the late order. -/
theorem verify_fst_eq_judge_lateOrder (q : Request) (h : Consistent s)
    (shown : records s = q.records) (denied : ∀ nonce, NonceStore.contains nonce s = false) :
    (verify q.maxAge q.now q.signed q.key s).1 = judge q Check.lateOrder := by
  refine verify_fst_eq_judge_append q ?_
  intro m parsed parts stale
  have absent := parts.nonce_passes_iff
  rw [← shown] at absent
  by_cases authentic : m.mac = hmac q.key m.packed
  · have right : Check.code.Passes q := parts.code_passes_iff.mpr authentic
    by_cases queued : m.content.nonce ∈ (records s).map NonceRecord.nonce
    -- the nonce that was denied is found when its record is to be added
    · have fails : ¬ Check.nonce.Passes q := fun passes => absent.mp passes queued
      rw [verify_of_queued h parsed (Timestamp.staleAge?_eq_none_iff.mp stale) authentic queued]
      simp only [judge, right, fails, if_true, if_false]
      rfl
    · have admitted := RecordStore.enqueueIfAbsent_eq (r := m.content.record) h
      rw [if_neg (show m.content.record.nonce ∉ _ from queued)] at admitted
      have passes : Check.nonce.Passes q := absent.mpr queued
      simp only [verify, parsed, stale, denied, SignedMessage.authenticate_eq, authentic, admitted,
        judge, right, passes, Bool.false_eq_true, if_true, if_false, parts.data]
  · have wrong : ¬ Check.code.Passes q := fun passes => authentic (parts.code_passes_iff.mp passes)
    simp only [verify, parsed, stale, denied, SignedMessage.authenticate_eq, authentic, judge,
      wrong, Bool.false_eq_true, if_false]
    rfl

end Denied

/-! ### Two stores in step -/

/-- An indexed store and one that denies all nonces hold the same records, and both are consistent.
-/
structure SameRecords (s : IndexedStore) (b : BlindStore) : Prop where
  left : s.Consistent
  right : b.inner.Consistent
  same : s.toList = b.toList

namespace SameRecords

variable {s : IndexedStore} {b : BlindStore}

/-- The indexed store looks at the nonce before the code, the other one after it. -/
theorem answers (h : SameRecords s b) (c : Call) :
    (c.answer s).1 = judge (c.request s.toList) Check.order ∧
      (c.answer b).1 = judge (c.request s.toList) Check.lateOrder :=
  ⟨answer_fst_eq_judge c h.left,
    verify_fst_eq_judge_lateOrder (c.request s.toList) h.right h.same.symm fun _ => rfl⟩

/-- Both stores accept a call or refuse it, if for different reasons. -/
theorem toOption_answer (h : SameRecords s b) (c : Call) :
    (c.answer s).1.toOption = (c.answer b).1.toOption := by
  obtain ⟨honest, blind⟩ := h.answers c
  rw [honest, blind]
  by_cases forges : (c.request s.toList).ForgesQueued
  · obtain ⟨early, late⟩ := judge_of_forgesQueued forges
    rw [early, late]
    rfl
  · rw [judge_order_eq_judge_lateOrder forges]

/-- Both stores hold the same records after a call. -/
theorem answer (h : SameRecords s b) (c : Call) : SameRecords (c.answer s).2 (c.answer b).2 := by
  -- neither store accepts what the other one refuses
  have alike := h.toOption_answer c
  refine ⟨consistent_answer c (s := s) h.left, consistent_answer c (s := b) h.right, ?_⟩
  rcases answer_cases c (s := s) h.left with ⟨e, refused⟩ | ⟨data, r, accepts, carried, -, -, left⟩
  · rcases answer_cases c (s := b) h.right with ⟨e', refused'⟩ | ⟨data', r', accepts', -⟩
    · rw [refused, refused']
      exact h.same
    · rw [refused, accepts'] at alike
      cases alike
  · rcases answer_cases c (s := b) h.right with
      ⟨e', refused'⟩ | ⟨data', r', -, carried', -, -, left'⟩
    · rw [refused', accepts] at alike
      cases alike
    -- both have added the record of the message and dropped the same
    · obtain rfl : r = r' := Option.some.inj (carried.symm.trans carried')
      calc (c.answer s).2.toList
        _ = (s.toList ++ [r]).dropWhile c.expires := left
        _ = (b.toList ++ [r]).dropWhile c.expires := by rw [h.same]
        _ = (c.answer b).2.toList := left'.symm

/-- Both stores go through a run in step. -/
theorem run (h : SameRecords s b) (run : List Call) :
    (Run.answers Call.answer run s).map Except.toOption =
        (Run.answers Call.answer run b).map Except.toOption ∧
      SameRecords (storeAfter run s) (storeAfter run b) := by
  induction run generalizing s b with
  | nil => exact ⟨rfl, h⟩
  | cons c run ih =>
    obtain ⟨others, last⟩ := ih (h.answer c)
    refine ⟨?_, last⟩
    simp only [Run.answers, List.map_cons, h.toOption_answer c, others]

end SameRecords

/-- **Denied nonces change no acceptance.** From the same records, a run of verifications on an
indexed store and one on a store that denies all nonces accept the same calls with the same data and
leave the same records after every call. The next call of such a run gets the same answer from both,
unless it is a forged message with a queued nonce: that is a replay for the one store and not
authentic for the other. -/
theorem denied_nonces_change_no_acceptance {s : IndexedStore} {b : BlindStore}
    (h : s.Consistent) (h' : b.inner.Consistent) (same : s.toList = b.toList) (run : List Call) :
    (Run.answers Call.answer run s).map Except.toOption =
        (Run.answers Call.answer run b).map Except.toOption ∧
      (storeAfter run s).toList = (storeAfter run b).toList ∧
      ∀ c : Call,
        (¬ (c.request (storeAfter run s).toList).ForgesQueued →
          (c.answer (storeAfter run s)).1 = (c.answer (storeAfter run b)).1) ∧
        ((c.request (storeAfter run s).toList).ForgesQueued →
          (c.answer (storeAfter run s)).1 = .error .replay ∧
          (c.answer (storeAfter run b)).1 =
            .error (.authenticationFailed "signature mismatch")) := by
  have start : SameRecords s b := ⟨h, h', same⟩
  obtain ⟨accepted, last⟩ := start.run run
  refine ⟨accepted, last.same, ?_⟩
  intro c
  obtain ⟨honest, blind⟩ := last.answers c
  rw [honest, blind]
  exact ⟨judge_order_eq_judge_lateOrder, judge_of_forgesQueued⟩

/-- The message that is signed at the epoch, verified at the same time under another key. -/
def forgedCopy : Call := { resent 0 with key := [1] }

/-- After the message itself, its copy under another key is a replay for a store that knows the
nonce and not authentic for one that denies it. -/
theorem forgedCopy_tells_stores_apart :
    IndexedStore.empty.Consistent ∧ BlindStore.empty.inner.Consistent ∧
      IndexedStore.empty.toList = BlindStore.empty.toList ∧
      (forgedCopy.answer (storeAfter [resent 0] IndexedStore.empty)).1 = .error .replay ∧
      (forgedCopy.answer (storeAfter [resent 0] BlindStore.empty)).1 =
        .error (.authenticationFailed "signature mismatch") := by
  have consistent := IndexedStore.consistent_empty
  obtain ⟨-, -, left⟩ := answer_of_signWith (c := resent 0) (s := IndexedStore.empty)
    consistent rfl (by decide) List.not_mem_nil
  have queue : (storeAfter [resent 0] IndexedStore.empty).toList =
      [⟨Octets.zero 32, Timestamp.ofInstant Instant.epoch⟩] := left.trans (by decide)
  have forges : (forgedCopy.request
      (storeAfter [resent 0] IndexedStore.empty).toList).ForgesQueued := by
    rw [queue]
    decide +kernel
  have differ := denied_nonces_change_no_acceptance (s := IndexedStore.empty)
    (b := BlindStore.empty) consistent consistent rfl [resent 0]
  exact ⟨consistent, consistent, rfl, (differ.2.2 forgedCopy).2 forges⟩

end SealedLink.OneTimeSignature
