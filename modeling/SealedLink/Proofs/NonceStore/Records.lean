import SealedLink.NonceStore.Indexed

/-!
# Nonce stores as lists of records

A nonce store is known to its users through the list of its records, oldest first. The index of an
indexed store is redundant: in a consistent store it counts the records of every nonce, and every
operation keeps it so. Expired records leave as the longest expired initial part of the list,
whether a store has a loop of its own for that or the default one.

## Main definitions

* `RecordStore` — stores that are a list of records to their users, whatever `contains` answers
* `FaithfulStore` — such stores whose `contains` answers from the list
* `IndexedStore.Consistent` — the index counts the records of every nonce

## Main results

* `NonceStore.purgeFront_spec` — the default loop removes the longest expired initial part
* `IndexedStore.purge_eq_purgeFront` — the loop of an indexed store is the default one
* `IndexedStore.exists_count_of_pop?` — a leaving record is counted, so its count can be lowered
-/

namespace SealedLink

open NonceStore (enqueue dequeue? peek? isEmpty enqueueIfAbsent purgeExpired purgeFront)

/-- A nonce store that is a list of records to its users. Nothing is said about `contains`: a
verifier that loses a race sees an answer that is out of date. -/
class RecordStore (σ : Type) [NonceStore σ] where
  /-- The records, oldest first. -/
  records : σ → List NonceRecord
  /-- The parts of a store agree with each other. -/
  Consistent : σ → Prop
  consistent_enqueue {r : NonceRecord} {s : σ} : Consistent s → Consistent (enqueue r s)
  records_enqueue {r : NonceRecord} {s : σ} : Consistent s →
    records (enqueue r s) = records s ++ [r]
  consistent_dequeue {r : NonceRecord} {s rest : σ} : Consistent s →
    dequeue? s = some (r, rest) → Consistent rest
  dequeue?_map_records {s : σ} : Consistent s →
    (dequeue? s).map (fun p => (p.1, records p.2)) =
      (records s).head?.map fun r => (r, (records s).tail)
  peek?_eq_head? {s : σ} : Consistent s → peek? s = (records s).head?
  length_eq_length {s : σ} : Consistent s → NonceStore.length s = (records s).length
  isEmpty_eq_isEmpty {s : σ} : Consistent s → isEmpty s = (records s).isEmpty
  enqueueIfAbsent_eq {r : NonceRecord} {s : σ} : Consistent s →
    enqueueIfAbsent r s =
      if r.nonce ∈ (records s).map NonceRecord.nonce then (false, s) else (true, enqueue r s)
  consistent_purgeExpired {expired : NonceRecord → Bool} {s : σ} : Consistent s →
    Consistent (purgeExpired expired s).2
  purgeExpired_fst {expired : NonceRecord → Bool} {s : σ} : Consistent s →
    (purgeExpired expired s).1 = ((records s).takeWhile expired).length
  records_purgeExpired {expired : NonceRecord → Bool} {s : σ} : Consistent s →
    records (purgeExpired expired s).2 = (records s).dropWhile expired

/-- A record store that answers truly whether it holds a nonce. -/
class FaithfulStore (σ : Type) [NonceStore σ] extends RecordStore σ where
  contains_eq_decide {nonce : Nonce} {s : σ} : Consistent s →
    NonceStore.contains nonce s = decide (nonce ∈ (records s).map NonceRecord.nonce)

/-! ### The default loop -/

section PurgeFront

variable {σ : Type} {peek? : σ → Option NonceRecord} {dequeue? : σ → Option (NonceRecord × σ)}
  {expired : NonceRecord → Bool}

/-- The default loop removes the longest expired initial part, if it may take enough turns. It is
stated for any view of the stores that looking at the front and taking from it respect. -/
theorem NonceStore.purgeFront_spec (view : σ → List NonceRecord) (Good : σ → Prop)
    (peek : ∀ s, Good s → peek? s = (view s).head?)
    (dequeue : ∀ s, Good s → ∀ r rest, view s = r :: rest →
      ∃ s', dequeue? s = some (r, s') ∧ view s' = rest ∧ Good s')
    (bound : Nat) (s : σ) (good : Good s) (enough : (view s).length ≤ bound) :
    (purgeFront peek? dequeue? expired bound s).1 = ((view s).takeWhile expired).length ∧
      view (purgeFront peek? dequeue? expired bound s).2 = (view s).dropWhile expired ∧
      Good (purgeFront peek? dequeue? expired bound s).2 := by
  -- by induction on the turns that are left, for every store
  induction bound generalizing s with
  | zero =>
    have nothing : view s = [] := List.length_eq_zero_iff.mp (Nat.le_zero.mp enough)
    simp [purgeFront, nothing, good]
  | succ bound ih =>
    cases shown : view s with
    | nil =>
      have absent : peek? s = none := by rw [peek s good, shown, List.head?_nil]
      simp [purgeFront, absent, shown, good]
    | cons r rest =>
      have present : peek? s = some r := by rw [peek s good, shown, List.head?_cons]
      by_cases old : expired r = true
      -- one record leaves in this turn, so one turn less is enough for the others
      · obtain ⟨s', taken, shown', good'⟩ := dequeue s good r rest shown
        have fits : (view s').length ≤ bound := by
          rw [shown, List.length_cons] at enough
          rw [shown']
          omega
        obtain ⟨count, left, kept⟩ := ih s' good' fits
        rw [shown'] at count left
        simp [purgeFront, present, old, taken, count, left, kept]
      · simp [purgeFront, present, old, shown, good]

end PurgeFront

/-! ### The plain queue -/

namespace Fifo

theorem pop?_map_toList {α : Type} (q : Fifo α) :
    q.pop?.map (fun p => (p.1, p.2.toList)) = q.toList.head?.map fun x => (x, q.toList.tail) := by
  cases popped : q.pop? with
  | none => simp [toList_eq_nil_of_pop? popped]
  | some p => simp [toList_eq_cons_of_pop? popped]

theorem exists_pop?_of_toList {α : Type} {q : Fifo α} {x : α} {rest : List α}
    (h : q.toList = x :: rest) : ∃ q', q.pop? = some (x, q') ∧ q'.toList = rest := by
  cases popped : q.pop? with
  | none =>
    rw [toList_eq_nil_of_pop? popped] at h
    cases h
  | some p =>
    rw [toList_eq_cons_of_pop? popped] at h
    obtain ⟨rfl, shown⟩ := List.cons.inj h
    exact ⟨p.2, rfl, shown⟩

theorem any_nonce_eq_decide (q : Fifo NonceRecord) (nonce : Nonce) :
    q.toList.any (·.nonce == nonce) = decide (nonce ∈ q.toList.map NonceRecord.nonce) := by
  rw [Bool.eq_iff_iff]
  simp

theorem purgeExpired_spec (q : Fifo NonceRecord) (expired : NonceRecord → Bool) :
    (purgeExpired expired q).1 = (q.toList.takeWhile expired).length ∧
      (purgeExpired expired q).2.toList = q.toList.dropWhile expired := by
  have dequeue : ∀ q : Fifo NonceRecord, True → ∀ r rest, q.toList = r :: rest →
      ∃ q', q.pop? = some (r, q') ∧ q'.toList = rest ∧ True := by
    intro q _ r rest shown
    obtain ⟨q', popped, shown'⟩ := exists_pop?_of_toList shown
    exact ⟨q', popped, shown', trivial⟩
  have enough : q.toList.length ≤ q.length := Nat.le_of_eq q.length_eq_length_toList.symm
  have spec := @NonceStore.purgeFront_spec _ _ _ expired toList (fun _ => True)
    (fun q _ => q.peek?_eq_head?) dequeue q.length q trivial enough
  exact ⟨spec.1, spec.2.1⟩

instance : FaithfulStore (Fifo NonceRecord) where
  records := toList
  Consistent _ := True
  consistent_enqueue _ := trivial
  records_enqueue _ := toList_push _ _
  consistent_dequeue _ _ := trivial
  dequeue?_map_records _ := pop?_map_toList _
  peek?_eq_head? _ := peek?_eq_head? _
  length_eq_length _ := length_eq_length_toList _
  isEmpty_eq_isEmpty {q} _ := by
    change (q.length == 0) = q.toList.isEmpty
    rw [length_eq_length_toList]
    cases q.toList <;> rfl
  enqueueIfAbsent_eq {r q} _ := by
    change (if q.toList.any (·.nonce == r.nonce) = true then (false, q) else (true, q.push r)) = _
    rw [any_nonce_eq_decide]
    simp only [decide_eq_true_eq]
    rfl
  consistent_purgeExpired _ := trivial
  purgeExpired_fst {expired q} _ := (q.purgeExpired_spec expired).1
  records_purgeExpired {expired q} _ := (q.purgeExpired_spec expired).2
  contains_eq_decide {nonce q} _ := q.any_nonce_eq_decide nonce

end Fifo

/-! ### The indexed store -/

namespace IndexedStore

/-- The number of records that carry a nonce. -/
def multiplicity (nonce : Nonce) (records : List NonceRecord) : Nat :=
  records.countP (·.nonce == nonce)

theorem multiplicity_append_singleton (nonce : Nonce) (records : List NonceRecord)
    (r : NonceRecord) :
    multiplicity nonce (records ++ [r]) =
      multiplicity nonce records + if r.nonce = nonce then 1 else 0 := by
  simp [multiplicity, List.countP_append, List.countP_singleton]

theorem multiplicity_cons (nonce : Nonce) (records : List NonceRecord) (r : NonceRecord) :
    multiplicity nonce (r :: records) =
      multiplicity nonce records + if r.nonce = nonce then 1 else 0 := by
  simp [multiplicity, List.countP_cons]

theorem multiplicity_pos_iff {nonce : Nonce} {records : List NonceRecord} :
    0 < multiplicity nonce records ↔ nonce ∈ records.map NonceRecord.nonce := by
  simp [multiplicity, List.countP_pos_iff]

/-- The index has an entry for exactly the nonces that are queued, and it is the number of records
that carry the nonce. -/
def Consistent (s : IndexedStore) : Prop :=
  ∀ nonce count, s.index[nonce]? = some count ↔ 0 < count ∧ count = multiplicity nonce s.toList

variable {s : IndexedStore}

theorem Consistent.getElem?_index (h : s.Consistent) (nonce : Nonce) :
    s.index[nonce]? =
      if multiplicity nonce s.toList = 0 then none else some (multiplicity nonce s.toList) := by
  split
  · rename_i none_queued
    cases entry : s.index[nonce]? with
    | none => rfl
    | some count =>
      obtain ⟨positive, counted⟩ := (h nonce count).mp entry
      omega
  · exact (h nonce _).mpr ⟨by omega, rfl⟩

theorem Consistent.getD_index (h : s.Consistent) (nonce : Nonce) :
    s.index.getD nonce 0 = multiplicity nonce s.toList := by
  rw [Std.HashMap.getD_eq_getD_getElem?, h.getElem?_index]
  split
  · rename_i none_queued
    simp [none_queued]
  · rfl

theorem Consistent.contains_eq_decide (h : s.Consistent) (nonce : Nonce) :
    s.contains nonce = decide (nonce ∈ s.toList.map NonceRecord.nonce) := by
  rw [contains, Std.HashMap.contains_eq_isSome_getElem?, h.getElem?_index, Bool.eq_iff_iff,
    decide_eq_true_eq, ← multiplicity_pos_iff]
  split <;> simp <;> omega

theorem consistent_empty : empty.Consistent := by
  intro nonce count
  simp [empty, toList, multiplicity]
  omega

theorem toList_push (r : NonceRecord) (s : IndexedStore) : (s.push r).toList = s.toList ++ [r] :=
  Fifo.toList_push _ _

theorem Consistent.push (h : s.Consistent) (r : NonceRecord) : (s.push r).Consistent := by
  intro nonce count
  rw [toList_push, multiplicity_append_singleton]
  change (s.index.insert r.nonce (s.index.getD r.nonce 0 + 1))[nonce]? = some count ↔ _
  rw [Std.HashMap.getElem?_insert, h.getD_index]
  -- the count of the new nonce grows by one, and no other entry is touched
  by_cases same : r.nonce = nonce
  · subst same
    simp only [beq_self_eq_true, if_true, Option.some.injEq]
    omega
  · simp only [beq_iff_eq, same, if_false, Nat.add_zero]
    exact h nonce count

/-- Releasing the nonce of a record that leaves makes the index count the records that stay. The
entry of the nonce exists and is positive, because the leaving record is counted. -/
theorem getElem?_release {index : Std.HashMap Nonce Nat} {r : NonceRecord} {rest : List NonceRecord}
    (h : ∀ nonce count, index[nonce]? = some count ↔
      0 < count ∧ count = multiplicity nonce (r :: rest)) (nonce : Nonce) (count : Nat) :
    (release r.nonce index)[nonce]? = some count ↔ 0 < count ∧ count = multiplicity nonce rest := by
  have leaving : index[r.nonce]? = some (multiplicity r.nonce rest + 1) :=
    (h r.nonce _).mpr ⟨Nat.succ_pos _, by simp [multiplicity_cons]⟩
  have others : r.nonce ≠ nonce →
      (index[nonce]? = some count ↔ 0 < count ∧ count = multiplicity nonce rest) := by
    intro other
    simpa [multiplicity_cons, other] using h nonce count
  -- the entry is dropped with the last record of its nonce, and only then
  simp only [release, leaving, Nat.add_sub_cancel]
  by_cases last : multiplicity r.nonce rest = 0
  · rw [if_pos last, Std.HashMap.getElem?_erase]
    by_cases same : r.nonce = nonce
    · subst same
      simp only [beq_self_eq_true, if_true, reduceCtorEq, false_iff]
      omega
    · simpa only [beq_iff_eq, same, if_false] using others same
  · rw [if_neg last, Std.HashMap.getElem?_insert]
    by_cases same : r.nonce = nonce
    · subst same
      simp only [beq_self_eq_true, if_true, Option.some.injEq]
      omega
    · simpa only [beq_iff_eq, same, if_false] using others same

theorem pop?_eq_some_iff {r : NonceRecord} {rest : IndexedStore} :
    s.pop? = some (r, rest) ↔
      ∃ queue, s.queue.pop? = some (r, queue) ∧ rest = ⟨queue, release r.nonce s.index⟩ := by
  unfold pop?
  cases s.queue.pop? with
  | none => simp
  | some p =>
    obtain ⟨x, queue⟩ := p
    simp only [Option.some.injEq, Prod.mk.injEq]
    constructor
    · rintro ⟨rfl, rfl⟩
      exact ⟨queue, ⟨rfl, rfl⟩, rfl⟩
    · rintro ⟨_, ⟨rfl, rfl⟩, rfl⟩
      exact ⟨rfl, rfl⟩

theorem toList_eq_cons_of_pop? {r : NonceRecord} {rest : IndexedStore}
    (h : s.pop? = some (r, rest)) : s.toList = r :: rest.toList := by
  obtain ⟨queue, popped, rfl⟩ := pop?_eq_some_iff.mp h
  exact Fifo.toList_eq_cons_of_pop? popped

theorem exists_pop?_of_toList {r : NonceRecord} {rest : List NonceRecord}
    (h : s.toList = r :: rest) :
    ∃ s', s.pop? = some (r, s') ∧ s'.toList = rest := by
  obtain ⟨queue, popped, shown⟩ := Fifo.exists_pop?_of_toList h
  exact ⟨_, pop?_eq_some_iff.mpr ⟨queue, popped, rfl⟩, shown⟩

theorem Consistent.of_pop? (h : s.Consistent) {r : NonceRecord} {rest : IndexedStore}
    (popped : s.pop? = some (r, rest)) : rest.Consistent := by
  have shown := toList_eq_cons_of_pop? popped
  obtain ⟨queue, -, rfl⟩ := pop?_eq_some_iff.mp popped
  exact getElem?_release fun nonce count => shown ▸ h nonce count

/-- The count of a record that leaves a consistent store is positive, so it can be lowered by one.
-/
theorem Consistent.exists_count_of_pop? (h : s.Consistent) {r : NonceRecord} {rest : IndexedStore}
    (popped : s.pop? = some (r, rest)) : ∃ count, s.index[r.nonce]? = some (count + 1) := by
  refine ⟨multiplicity r.nonce rest.toList, (h r.nonce _).mpr ⟨Nat.succ_pos _, ?_⟩⟩
  rw [toList_eq_cons_of_pop? popped, multiplicity_cons, if_pos rfl]

theorem pop?_map_toList (s : IndexedStore) :
    s.pop?.map (fun p => (p.1, p.2.toList)) = s.toList.head?.map fun r => (r, s.toList.tail) := by
  rw [toList, ← Fifo.pop?_map_toList, pop?]
  cases s.queue.pop? <;> rfl

theorem peek?_eq_head? (s : IndexedStore) : s.queue.peek? = s.toList.head? :=
  Fifo.peek?_eq_head? _

/-- Looking at the front before taking from it makes no difference. -/
theorem purgeUpTo_eq_purgeFront (expired : NonceRecord → Bool) (bound : Nat) (s : IndexedStore) :
    purgeUpTo expired bound s = purgeFront (fun s => s.queue.peek?) pop? expired bound s := by
  induction bound generalizing s with
  | zero => rfl
  | succ bound ih =>
    unfold purgeUpTo purgeFront
    rw [peek?_eq_head?]
    cases popped : s.pop? with
    | none =>
      cases shown : s.toList with
      | nil => rfl
      | cons r rest =>
        -- a store that shows a record gives one away
        obtain ⟨s', taken, -⟩ := exists_pop?_of_toList shown
        rw [taken] at popped
        cases popped
    | some p =>
      obtain ⟨r, rest⟩ := p
      rw [toList_eq_cons_of_pop? popped, List.head?_cons]
      simp only [ih]

/-- The purge of an indexed store is the default loop. -/
theorem purge_eq_purgeFront (expired : NonceRecord → Bool) (s : IndexedStore) :
    s.purge expired =
      purgeFront (fun s => s.queue.peek?) pop? expired s.queue.length s :=
  purgeUpTo_eq_purgeFront expired s.queue.length s

theorem Consistent.purge_spec (h : s.Consistent) (expired : NonceRecord → Bool) :
    (s.purge expired).1 = (s.toList.takeWhile expired).length ∧
      (s.purge expired).2.toList = s.toList.dropWhile expired ∧ (s.purge expired).2.Consistent := by
  rw [purge_eq_purgeFront]
  refine NonceStore.purgeFront_spec toList Consistent (fun s _ => s.peek?_eq_head?) ?_
    s.queue.length s h (Nat.le_of_eq s.queue.length_eq_length_toList.symm)
  intro s h r rest shown
  obtain ⟨s', popped, shown'⟩ := exists_pop?_of_toList shown
  exact ⟨s', popped, shown', h.of_pop? popped⟩

theorem Consistent.pushIfAbsent_eq (h : s.Consistent) (r : NonceRecord) :
    s.pushIfAbsent r =
      if r.nonce ∈ s.toList.map NonceRecord.nonce then (false, s) else (true, s.push r) := by
  simp only [pushIfAbsent, h.contains_eq_decide, decide_eq_true_eq]

theorem isEmpty_queue (s : IndexedStore) : (s.queue.length == 0) = s.toList.isEmpty := by
  rw [Fifo.length_eq_length_toList, ← toList]
  cases s.toList <;> rfl

instance : FaithfulStore IndexedStore where
  records := toList
  Consistent := Consistent
  consistent_enqueue h := h.push _
  records_enqueue _ := toList_push _ _
  consistent_dequeue h popped := h.of_pop? popped
  dequeue?_map_records _ := pop?_map_toList _
  peek?_eq_head? _ := peek?_eq_head? _
  length_eq_length _ := Fifo.length_eq_length_toList _
  isEmpty_eq_isEmpty _ := isEmpty_queue _
  enqueueIfAbsent_eq h := h.pushIfAbsent_eq _
  consistent_purgeExpired h := (h.purge_spec _).2.2
  purgeExpired_fst h := (h.purge_spec _).1
  records_purgeExpired h := (h.purge_spec _).2.1
  contains_eq_decide h := h.contains_eq_decide _

end IndexedStore

/-! ### The store that loses every race -/

namespace BlindStore

instance : RecordStore BlindStore where
  records := toList
  Consistent s := s.inner.Consistent
  consistent_enqueue h := h.push _
  records_enqueue _ := IndexedStore.toList_push _ _
  consistent_dequeue {r s rest} h popped := by
    obtain ⟨p, taken, same⟩ := Option.map_eq_some_iff.mp popped
    cases same
    exact h.of_pop? taken
  dequeue?_map_records {s} _ := by
    rw [toList, ← IndexedStore.pop?_map_toList]
    change (s.inner.pop?.map _).map _ = _
    rw [Option.map_map]
    rfl
  peek?_eq_head? _ := IndexedStore.peek?_eq_head? _
  length_eq_length _ := Fifo.length_eq_length_toList _
  isEmpty_eq_isEmpty _ := IndexedStore.isEmpty_queue _
  enqueueIfAbsent_eq {r s} h := by
    change ((s.inner.pushIfAbsent r).1, (⟨(s.inner.pushIfAbsent r).2⟩ : BlindStore)) = _
    rw [h.pushIfAbsent_eq]
    change _ = if r.nonce ∈ s.inner.toList.map NonceRecord.nonce then _ else _
    split <;> rfl
  consistent_purgeExpired h := (h.purge_spec _).2.2
  purgeExpired_fst h := (h.purge_spec _).1
  records_purgeExpired h := (h.purge_spec _).2.1

end BlindStore

end SealedLink
