import SealedLink.Proofs.OneTimeSignature.Verification

/-!
# Runs against one nonce store

A run is a sequence of verifications, each with a clock reading and a limit of its own, and of
additions that others make to the same store. What matters of a run is which of its calls were
accepted.

## Main definitions

* `OneTimeSignature.Call` — one verification
* `OneTimeSignature.Action` — a step of a run
* `OneTimeSignature.accepted` — the accepted calls of a run, in order

## Main results

* `OneTimeSignature.perform_cases` — a step adds records or accepts a call
* `OneTimeSignature.exists_record?_of_mem_accepted` — an accepted call carries a record
-/

namespace SealedLink.OneTimeSignature

open RecordStore (records Consistent)

/-- One verification: what the clock shows, which limit is configured, and the message with its key.
-/
structure Call where
  /-- The reading of the clock. -/
  clock : Instant
  /-- The age up to which a message is accepted. -/
  maxAge : Duration
  /-- The signed message. -/
  signed : Bytes
  /-- The key of the verifier. -/
  key : Bytes

/-- A step of a run. -/
inductive Action where
  | verify (c : Call)
  | enqueue (r : NonceRecord)
  | enqueueIfAbsent (r : NonceRecord)

namespace Call

/-- The clock as a timestamp. -/
def now (c : Call) : Timestamp := Timestamp.ofInstant c.clock

/-- The answer to a call, and the store after it. -/
def answer {σ : Type} [NonceStore σ] (c : Call) (s : σ) : Except LaunchError Bytes × σ :=
  OneTimeSignature.verify c.maxAge c.now c.signed c.key s

/-- The nonce and the timestamp in a message, if it is well formed. -/
def record? (c : Call) : Option NonceRecord :=
  match SignedMessage.parse c.signed with
  | .ok m => some m.content.record
  | .error _ => none

/-- A record is too old to be accepted in a call. -/
def expires (c : Call) (r : NonceRecord) : Bool := r.isExpired c.now c.maxAge

theorem record?_eq_some_iff {c : Call} {r : NonceRecord} :
    c.record? = some r ↔ ∃ m, SignedMessage.parse c.signed = .ok m ∧ m.content.record = r := by
  unfold record?
  cases SignedMessage.parse c.signed <;> simp

theorem record?_eq_of_signed_eq {c d : Call} (h : c.signed = d.signed) : c.record? = d.record? := by
  simp only [record?, h]

end Call

/-- A step: the call that it accepts, if any, and the store after it. -/
def Action.perform {σ : Type} [NonceStore σ] : Action → σ → Option Call × σ
  | verify c, s =>
    match c.answer s with
    | (.ok _, s) => (some c, s)
    | (.error _, s) => (none, s)
  | enqueue r, s => (none, NonceStore.enqueue r s)
  | enqueueIfAbsent r, s => (none, (NonceStore.enqueueIfAbsent r s).2)

/-- The calls of a run. -/
def calls (actions : List Action) : List Call :=
  actions.filterMap fun
    | .verify c => some c
    | _ => none

/-- The accepted calls of a run, in order. -/
def accepted {σ : Type} [NonceStore σ] : List Action → σ → List Call
  | [], _ => []
  | a :: actions, s => (a.perform s).1.toList ++ accepted actions (a.perform s).2

/-! ### One step -/

variable {σ : Type} [NonceStore σ] [RecordStore σ]

theorem consistent_perform (a : Action) {s : σ} (h : Consistent s) :
    Consistent (a.perform s).2 := by
  cases a with
  | verify c =>
    have kept := consistent_verify c.maxAge c.now c.signed c.key h
    simp only [Action.perform, Call.answer]
    split <;> simp_all
  | enqueue r => exact RecordStore.consistent_enqueue h
  | enqueueIfAbsent r =>
    simp only [Action.perform, RecordStore.enqueueIfAbsent_eq h]
    split
    · exact h
    · exact RecordStore.consistent_enqueue h

/-- A step accepts nothing and drops no record, or it accepts a call whose message is fresh and has
a nonce that is not queued; then its record is added before the expired ones leave. -/
theorem perform_cases (a : Action) {s : σ} (h : Consistent s) :
    ((a.perform s).1 = none ∧ ∃ added, records (a.perform s).2 = records s ++ added) ∨
      ∃ c r, a = .verify c ∧ (a.perform s).1 = some c ∧ c.record? = some r ∧ c.expires r = false ∧
        r.nonce ∉ (records s).map NonceRecord.nonce ∧
        records (a.perform s).2 = (records s ++ [r]).dropWhile c.expires := by
  cases a with
  | verify c =>
    -- a refused call and an addition alike accept nothing and drop nothing
    rcases verify_cases c.maxAge c.now c.signed c.key h with
      ⟨e, refused⟩ | ⟨m, parsed, fresh, absent, -, accepts⟩
    · refine .inl ?_
      simp only [Action.perform, Call.answer, refused]
      exact ⟨trivial, [], (List.append_nil _).symm⟩
    · refine .inr ⟨c, m.content.record, rfl, ?_, ?_, fresh, absent, ?_⟩
      · simp only [Action.perform, Call.answer, accepts]
      · simp only [Call.record?, parsed]
      · simp only [Action.perform, Call.answer, accepts]
        exact records_purge_enqueue c.maxAge c.now m.content.record h
  | enqueue r => exact .inl ⟨rfl, [r], RecordStore.records_enqueue h⟩
  | enqueueIfAbsent r =>
    refine .inl ⟨rfl, ?_⟩
    simp only [Action.perform, RecordStore.enqueueIfAbsent_eq h]
    split
    · exact ⟨[], (List.append_nil _).symm⟩
    · exact ⟨[r], RecordStore.records_enqueue h⟩

/-- Every accepted call carries a record. -/
theorem exists_record?_of_mem_accepted {actions : List Action} {s : σ} (h : Consistent s) {c : Call}
    (member : c ∈ accepted actions s) : ∃ r, c.record? = some r := by
  induction actions generalizing s with
  | nil => exact absurd member List.not_mem_nil
  | cons a actions ih =>
    rcases List.mem_append.mp member with now | later
    · rcases perform_cases a h with ⟨nothing, -⟩ | ⟨d, r, -, accepts, carried, -⟩
      · rw [nothing] at now
        exact absurd now List.not_mem_nil
      · rw [accepts] at now
        obtain rfl := List.mem_singleton.mp now
        exact ⟨r, carried⟩
    · exact ih (consistent_perform a h) later

end SealedLink.OneTimeSignature
