import SealedLink.Proofs.OneTimeSignature.Retention

/-!
# What one verification does to a store

A refused call does nothing. An accepted one adds the record of its message, and then the longest
expired initial part of the queue leaves. The check of the age and the purge ask the same of a
timestamp, so the purge stops in front of the new record at the latest, even if everything else is
expired. A record that is not expired never leaves, wherever it stands.

## Main definitions

* `OneTimeSignature.HasEffect` — the whole effect of a call on a store

## Main results

* `OneTimeSignature.dropWhile_append_of_young` — a purge stops in front of a young record
* `OneTimeSignature.hasEffect_of_consistent` — the effect on every faithful store
* `OneTimeSignature.answer_effect` — the effect on an indexed store and on a plain queue
-/

namespace SealedLink.OneTimeSignature

open RecordStore (records Consistent)

/-- The effect of a call on a store. An error changes nothing. After an acceptance the queue is the
old one with the record of the message behind it, less the longest expired initial part of that.
The new record is the last then, and its nonce is found; and the records that are not expired are
those from before, in their order, with the new one. -/
structure HasEffect {σ : Type} [NonceStore σ] [RecordStore σ] (c : Call) (s : σ) : Prop where
  refused : ∀ e, (c.answer s).1 = .error e → (c.answer s).2 = s
  accepted : ∀ data, (c.answer s).1 = .ok data → ∃ r, c.record? = some r ∧
    Consistent (c.answer s).2 ∧
    records (c.answer s).2 = (records s ++ [r]).dropWhile c.expires ∧
    (records (c.answer s).2).getLast? = some r ∧
    NonceStore.contains r.nonce (c.answer s).2 = true ∧
    (records (c.answer s).2).filter (fun r => !c.expires r) =
      (records s).filter (fun r => !c.expires r) ++ [r]

/-! ### Purges -/

section Purge

variable {α : Type} {p : α → Bool}

/-- A purge takes away none of those that are to stay. -/
theorem filter_not_dropWhile (l : List α) :
    (l.dropWhile p).filter (fun x => !p x) = l.filter fun x => !p x := by
  induction l with
  | nil => rfl
  | cons x l ih =>
    cases head : p x with
    | true => simp [head, ih]
    | false => simp [head]

/-- A purge stops in front of an element that is to stay. -/
theorem dropWhile_append_of_young {x : α} (young : p x = false) (l : List α) :
    (l ++ [x]).dropWhile p = l.dropWhile p ++ [x] := by
  rw [List.dropWhile_append]
  cases rest : l.dropWhile p with
  | nil => simp [young]
  | cons y rest => simp

end Purge

/-! ### The effect of a call -/

variable {σ : Type} [NonceStore σ] [FaithfulStore σ] {s : σ}

theorem hasEffect_of_consistent (c : Call) (h : Consistent s) : HasEffect c s := by
  rcases answer_cases c h with ⟨e, refused⟩ | ⟨data, r, accepts, carried, young, -, left⟩
  · refine ⟨fun _ _ => by rw [refused], fun data accepts => ?_⟩
    rw [refused] at accepts
    cases accepts
  · refine ⟨fun e refused => ?_, fun _ _ => ⟨r, carried, consistent_answer c h, left, ?_, ?_, ?_⟩⟩
    · rw [accepts] at refused
      cases refused
    · rw [left, dropWhile_append_of_young young, List.getLast?_concat]
    · -- the new record has not left, so its nonce is among those that are queued
      rw [FaithfulStore.contains_eq_decide (consistent_answer c h), left,
        dropWhile_append_of_young young]
      simp
    · rw [left, filter_not_dropWhile, List.filter_append]
      simp [young]

/-- **The effect of one verification**, for every message, key, clock and limit and every state of
an indexed store or a plain queue. -/
theorem answer_effect (c : Call) :
    (∀ s : IndexedStore, s.Consistent → HasEffect c s) ∧ ∀ s : Fifo NonceRecord, HasEffect c s :=
  ⟨fun _ h => hasEffect_of_consistent c h, fun s => hasEffect_of_consistent (s := s) c trivial⟩

theorem record?_trial (byte : UInt8) (seconds : Nat) :
    (trial byte seconds).record? = some (trialRecord byte seconds) := by
  have signed : (trial byte seconds).signed =
      signWith [] ⟨(trialRecord byte seconds).timestamp, (trialRecord byte seconds).nonce, []⟩ := rfl
  rw [Call.record?_of_signWith signed]
  rfl

/-- A trial purges the whole queue that it finds, and nothing but its own record is left. -/
theorem late_trial_is_left_alone :
    (IndexedStore.empty.push (trialRecord 1 0)).Consistent ∧
      ((trial 3 45).answer (IndexedStore.empty.push (trialRecord 1 0))).1 = .ok [] ∧
      ((trial 3 45).answer (IndexedStore.empty.push (trialRecord 1 0))).2.toList =
        [trialRecord 3 45] := by
  have consistent := IndexedStore.consistent_empty.push (trialRecord 1 0)
  obtain ⟨accepts, -, -⟩ := answer_trial consistent 3 45 (by decide)
  obtain ⟨r, carried, -, left, -⟩ := ((answer_effect (trial 3 45)).1 _ consistent).accepted _ accepts
  obtain rfl : r = trialRecord 3 45 := Option.some.inj (carried.symm.trans (record?_trial 3 45))
  exact ⟨consistent, accepts, left.trans (by decide)⟩

end SealedLink.OneTimeSignature
