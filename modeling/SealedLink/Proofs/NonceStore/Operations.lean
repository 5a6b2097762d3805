import Mathlib.Data.List.TakeWhile
import Mathlib.Logic.Relation
import SealedLink.Proofs.NonceStore.Records

/-!
# Runs of store operations

Whatever is asked of a faithful store, in whatever order, it answers as the list of its records
would. So the indexed store and the plain queue cannot be told apart, although the first keeps an
index beside its queue and has its own loops, and the second has only the default ones.

## Main definitions

* `NonceStore.Operation`, `NonceStore.Answer` — what is asked of a store, and what it says
* `NonceStore.Operation.perform`, `NonceStore.Operation.onList` — an operation on a store and on a
  list
* `NonceStore.run` — the answers to a sequence of operations, and what is left after it
* `IndexedStore.Leaves` — one record leaves the front, as in each turn of a purge

## Main results

* `NonceStore.run_perform` — a run on a faithful store is the run on its list
* `NonceStore.run_indexed_and_plain` — the two stores agree with the list from the start on, the
  index counts the queued records in every reachable state, and no count is lowered below zero
-/

namespace SealedLink

/-- Record stores from which all records can be dropped. -/
class ClearableStore (σ : Type) [NonceStore σ] [RecordStore σ] where
  /-- The store without any record. -/
  clear : σ → σ
  consistent_clear {s : σ} : RecordStore.Consistent s → RecordStore.Consistent (clear s)
  records_clear {s : σ} : RecordStore.Consistent s → RecordStore.records (clear s) = []

instance : ClearableStore IndexedStore where
  clear := IndexedStore.clear
  consistent_clear _ := IndexedStore.consistent_empty
  records_clear _ := rfl

/-- A plain queue has no operation for it; all records leave if all of them count as expired. -/
instance : ClearableStore (Fifo NonceRecord) where
  clear q := (NonceStore.purgeExpired (fun _ => true) q).2
  consistent_clear _ := trivial
  records_clear {q} _ := by
    rw [show RecordStore.records _ = _ from (q.purgeExpired_spec fun _ => true).2]
    exact List.dropWhile_eq_nil_iff.mpr fun _ _ => rfl

namespace NonceStore

/-- What can be asked of a store. -/
inductive Operation where
  | enqueue (r : NonceRecord)
  | dequeue
  | peek
  | length
  | isEmpty
  | contains (nonce : Nonce)
  | enqueueIfAbsent (r : NonceRecord)
  | purge (expired : NonceRecord → Bool)
  | clear

/-- What a store says. -/
inductive Answer where
  /-- Nothing but that it is done. -/
  | done
  | record (r : Option NonceRecord)
  | number (n : Nat)
  | truth (b : Bool)
  deriving DecidableEq

namespace Operation

/-- An operation on a store: the answer, and the store after it. -/
def perform {σ : Type} [NonceStore σ] [RecordStore σ] [ClearableStore σ] :
    Operation → σ → Answer × σ
  | enqueue r, s => (.done, NonceStore.enqueue r s)
  | dequeue, s =>
    match dequeue? s with
    | some (r, rest) => (.record (some r), rest)
    | none => (.record none, s)
  | peek, s => (.record (peek? s), s)
  | length, s => (.number (NonceStore.length s), s)
  | isEmpty, s => (.truth (NonceStore.isEmpty s), s)
  | contains nonce, s => (.truth (NonceStore.contains nonce s), s)
  | enqueueIfAbsent r, s => ((NonceStore.enqueueIfAbsent r s).map .truth id)
  | purge expired, s => ((purgeExpired expired s).map .number id)
  | clear, s => (.done, ClearableStore.clear s)

/-- An operation on a list of records, oldest first: a record is added at the end and taken from the
front, a nonce is added unless a record has it, and a purge drops the longest initial part that is
expired. -/
def onList : Operation → List NonceRecord → Answer × List NonceRecord
  | enqueue r, l => (.done, l ++ [r])
  | dequeue, l => (.record l.head?, l.tail)
  | peek, l => (.record l.head?, l)
  | length, l => (.number l.length, l)
  | isEmpty, l => (.truth l.isEmpty, l)
  | contains nonce, l => (.truth ((l.map NonceRecord.nonce).contains nonce), l)
  | enqueueIfAbsent r, l =>
    if (l.map NonceRecord.nonce).contains r.nonce then (.truth false, l)
    else (.truth true, l ++ [r])
  | purge expired, l => (.number (l.takeWhile expired).length, l.dropWhile expired)
  | clear, _ => (.done, [])

end Operation

/-- The answers to a sequence of operations, each applied to what the one before it leaves, and what
is left after the last. -/
def run {τ : Type} (step : Operation → τ → Answer × τ) : List Operation → τ → List Answer × τ
  | [], s => ([], s)
  | operation :: operations, s =>
    let (answer, s) := step operation s
    let (answers, s) := run step operations s
    (answer :: answers, s)

section Agreement

variable {σ : Type} [NonceStore σ] [FaithfulStore σ] [ClearableStore σ]

open RecordStore (records Consistent)

/-- An operation keeps a faithful store consistent. -/
theorem consistent_perform (operation : Operation) {s : σ} (h : Consistent s) :
    Consistent (operation.perform s).2 := by
  cases operation with
  | enqueue r => exact RecordStore.consistent_enqueue h
  | dequeue =>
    simp only [Operation.perform]
    split
    · rename_i taken
      exact RecordStore.consistent_dequeue h taken
    · exact h
  | enqueueIfAbsent r =>
    simp only [Operation.perform, RecordStore.enqueueIfAbsent_eq h]
    split
    · exact h
    · exact RecordStore.consistent_enqueue h
  | purge expired => exact RecordStore.consistent_purgeExpired h
  | clear => exact ClearableStore.consistent_clear h
  | peek | length | isEmpty | contains => exact h

/-- An operation on a faithful store is the operation on its list. -/
theorem perform_eq_onList (operation : Operation) {s : σ} (h : Consistent s) :
    (operation.perform s).1 = (operation.onList (records s)).1 ∧
      records (operation.perform s).2 = (operation.onList (records s)).2 := by
  cases operation with
  | enqueue r => exact ⟨rfl, RecordStore.records_enqueue h⟩
  | dequeue =>
    -- the view fixes which record leaves, not how the store is made up after that
    have view := RecordStore.dequeue?_map_records h
    simp only [Operation.perform, Operation.onList]
    cases shown : records s with
    | nil =>
      rw [shown, List.head?_nil, Option.map_none, Option.map_eq_none_iff] at view
      simp [view, shown]
    | cons r rest =>
      rw [shown, List.head?_cons, Option.map_some, Option.map_eq_some_iff] at view
      obtain ⟨⟨x, s'⟩, taken, same⟩ := view
      obtain ⟨rfl, rfl⟩ := Prod.mk.inj same
      simp [taken]
  | peek => simp [Operation.perform, Operation.onList, RecordStore.peek?_eq_head? h]
  | length => simp [Operation.perform, Operation.onList, RecordStore.length_eq_length h]
  | isEmpty => simp [Operation.perform, Operation.onList, RecordStore.isEmpty_eq_isEmpty h]
  | contains nonce =>
    refine ⟨congrArg Answer.truth ?_, rfl⟩
    rw [FaithfulStore.contains_eq_decide h, List.contains_eq_mem]
  | enqueueIfAbsent r =>
    simp only [Operation.perform, Operation.onList, RecordStore.enqueueIfAbsent_eq h,
      List.contains_iff_mem]
    split
    · exact ⟨rfl, rfl⟩
    · exact ⟨rfl, RecordStore.records_enqueue h⟩
  | purge expired =>
    exact ⟨congrArg Answer.number (RecordStore.purgeExpired_fst h),
      RecordStore.records_purgeExpired h⟩
  | clear => exact ⟨rfl, ClearableStore.records_clear h⟩

/-- A run on a faithful store is the run on its list, and keeps the store consistent. -/
theorem run_perform (operations : List Operation) {s : σ} (h : Consistent s) :
    (run Operation.perform operations s).1 = (run Operation.onList operations (records s)).1 ∧
      records (run Operation.perform operations s).2 =
        (run Operation.onList operations (records s)).2 ∧
      Consistent (run Operation.perform operations s).2 := by
  induction operations generalizing s with
  | nil => exact ⟨rfl, rfl, h⟩
  | cons operation operations ih =>
    -- the first operation keeps the store consistent, so the others are a run of the same kind
    obtain ⟨answer, left⟩ := perform_eq_onList operation h
    obtain ⟨answers, last, kept⟩ := ih (consistent_perform operation h)
    rw [left] at answers last
    exact ⟨congrArg₂ List.cons answer answers, last, kept⟩

end Agreement

end NonceStore

namespace IndexedStore

/-- One record leaves the front of a store, as in a removal and in each turn of a purge. -/
def Leaves (s rest : IndexedStore) : Prop := ∃ r, s.pop? = some (r, rest)

theorem Consistent.of_leaves {s rest : IndexedStore} (h : s.Consistent)
    (leaves : Relation.ReflTransGen Leaves s rest) : rest.Consistent := by
  induction leaves with
  | refl => exact h
  | tail _ last ih =>
    obtain ⟨r, popped⟩ := last
    exact ih.of_pop? popped

end IndexedStore

/-- **The indexed store refines a list.** From the empty store on, every sequence of operations gets
the same answers from the indexed store, from the plain queue with its default loops, and from the
list of records. In every state that is reached the index has an entry for exactly the queued
nonces, the number of records with that nonce; and wherever a record leaves, also in the middle of a
purge, its count is at least one. -/
theorem NonceStore.run_indexed_and_plain (operations : List NonceStore.Operation) :
    let indexed := run Operation.perform operations IndexedStore.empty
    let plain := run Operation.perform operations (Fifo.empty : Fifo NonceRecord)
    let list := run Operation.onList operations []
    (indexed.1 = list.1 ∧ plain.1 = list.1) ∧
      (indexed.2.toList = list.2 ∧ plain.2.toList = list.2) ∧
      (∀ nonce count, indexed.2.index[nonce]? = some count ↔
        0 < count ∧ count = list.2.countP (·.nonce == nonce)) ∧
      ∀ s, Relation.ReflTransGen IndexedStore.Leaves indexed.2 s →
        ∀ r rest, s.pop? = some (r, rest) → ∃ count, s.index[r.nonce]? = some (count + 1) := by
  intro indexed plain list
  obtain ⟨answers, records, kept⟩ :=
    run_perform operations (s := IndexedStore.empty) IndexedStore.consistent_empty
  obtain ⟨answers', records', -⟩ :=
    run_perform operations (s := (Fifo.empty : Fifo NonceRecord)) trivial
  refine ⟨⟨answers, answers'⟩, ⟨records, records'⟩, ?_, ?_⟩
  · intro nonce count
    have shown : indexed.2.toList = list.2 := records
    exact shown ▸ kept nonce count
  · intro s leaves r rest popped
    exact (IndexedStore.Consistent.of_leaves kept leaves).exists_count_of_pop? popped

end SealedLink
