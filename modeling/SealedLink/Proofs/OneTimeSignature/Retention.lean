import SealedLink.Proofs.OneTimeSignature.Log
import SealedLink.Proofs.OneTimeSignature.ReplaySafety

/-!
# What a store retains of traffic in order

Expired records leave only from the front of a queue. If messages are accepted in the order of their
timestamps this is all that is needed: the expired records of a queue are its front then, and while
the clock does not go back and the limit does not grow, what has left before is expired still. So
right after an acceptance the store holds the records of the log that are not expired, and no
others.

## Main definitions

* `OneTimeSignature.InOrder` — the records of a log are in the order of their timestamps
* `OneTimeSignature.Covers` — a store holds a log except for records that have expired for good

## Main results

* `OneTimeSignature.Covers.answer`, `OneTimeSignature.Covers.storeAfter` — a call and a run keep the
  cover
* `OneTimeSignature.records_of_accepts` — after an acceptance the store holds what is not expired
* `OneTimeSignature.retains_exactly` — exact retention for a fixed limit
-/

namespace SealedLink.OneTimeSignature

open RecordStore (records Consistent)

/-- The records of a log are in the order of their timestamps. -/
def InOrder (log : List NonceRecord) : Prop :=
  log.Pairwise fun r r' => r.timestamp.ticks ≤ r'.timestamp.ticks

/-! ### Expiry at the front -/

/-- If a property passes from every element of a list to those before it, then what has it is an
initial part of the list. -/
theorem dropWhile_eq_filter_not {α : Type} {p : α → Bool} {l : List α}
    (h : l.Pairwise fun x y => p y = true → p x = true) :
    l.dropWhile p = l.filter fun x => !p x := by
  induction l with
  | nil => rfl
  | cons x l ih =>
    obtain ⟨first, others⟩ := List.pairwise_cons.mp h
    cases head : p x with
    | true => simp [head, ih others]
    | false =>
      -- the head stays, and so does everything behind it
      have kept : ∀ y ∈ l, (!p y) = true := by
        intro y member
        cases tail : p y with
        | false => rfl
        | true =>
          rw [first y member tail] at head
          cases head
      simp [head, List.filter_eq_self.mpr kept]

/-- What is signed no later than an expired record is expired. -/
theorem Call.expires_of_le {c : Call} {r r' : NonceRecord}
    (older : r.timestamp.ticks ≤ r'.timestamp.ticks) (expired : c.expires r' = true) :
    c.expires r = true := by
  rw [Call.expires, NonceRecord.isExpired, Timestamp.isExpired_iff] at expired ⊢
  calc c.maxAge.nanos
    _ < (c.now.ticks - r'.timestamp.ticks) * Timestamp.nanosPerTick := expired
    _ ≤ (c.now.ticks - r.timestamp.ticks) * Timestamp.nanosPerTick :=
      Nat.mul_le_mul_right _ (Nat.sub_le_sub_left older _)

/-- In a queue in order the expired records are those at the front. -/
theorem InOrder.dropWhile_expires {queue : List NonceRecord} (h : InOrder queue) (c : Call) :
    queue.dropWhile c.expires = queue.filter fun r => !c.expires r :=
  dropWhile_eq_filter_not (h.imp fun older => c.expires_of_le older)

/-! ### Records that have left -/

/-- A store holds a log except for records at its beginning that expire in every call to come. -/
def Covers {σ : Type} [NonceStore σ] [RecordStore σ] (log : List NonceRecord) (coming : List Call)
    (s : σ) : Prop :=
  ∃ gone, log = gone ++ records s ∧ ∀ r ∈ gone, ∀ c ∈ coming, c.expires r = true

theorem calls_map_verify (run : List Call) : calls (run.map .verify) = run := by
  simp [calls, List.filterMap_map]

/-- In a steady run, what one call finds expired is expired in all calls after it. -/
theorem expires_of_steady {c : Call} {run : List Call} (h : Steady ((c :: run).map .verify))
    {r : NonceRecord} (expired : c.expires r = true) : ∀ d ∈ run, d.expires r = true := by
  intro d member
  refine Steady.expires_of_expires h expired d ?_
  rw [calls_map_verify]
  exact member

section Cover

variable {σ : Type} [NonceStore σ] [RecordStore σ] {past : List NonceRecord} {c : Call}
variable {run : List Call} {s : σ}

/-- A call keeps the cover, on the log with what the call adds to it. -/
theorem Covers.answer (h : Covers past (c :: run) s) (consistent : Consistent s)
    (steady : Steady ((c :: run).map .verify)) :
    Covers (past ++ log [c] s) run (c.answer s).2 := by
  obtain ⟨gone, split, expired⟩ := h
  rcases answer_cases c consistent with ⟨e, refused⟩ | ⟨data, r, accepts, carried, -, -, left⟩
  · rw [log_singleton_of_refused (by rw [refused]), refused, List.append_nil]
    exact ⟨gone, split, fun r member d later => expired r member d (List.mem_cons_of_mem c later)⟩
  · rw [log_singleton_of_accepted accepts carried]
    -- the records that leave now join those that have left before
    refine ⟨gone ++ (records s ++ [r]).takeWhile c.expires, ?_, ?_⟩
    · rw [left, List.append_assoc, List.takeWhile_append_dropWhile, split, List.append_assoc]
    · intro r' member
      rcases List.mem_append.mp member with before | now
      · exact fun d later => expired r' before d (List.mem_cons_of_mem c later)
      · exact expires_of_steady steady (List.mem_takeWhile_imp now)

/-- A run keeps the cover, on the log with what the run adds to it. -/
theorem Covers.storeAfter {coming : List Call} (h : Covers past (run ++ coming) s)
    (consistent : Consistent s) (steady : Steady ((run ++ coming).map .verify)) :
    Covers (past ++ log run s) coming (storeAfter run s) := by
  -- what a call needs to keep the cover is kept with it
  refine (storeAfter_of_forall
    (P := fun past coming s => Covers past coming s ∧ Consistent s ∧ Steady (coming.map .verify))
    ?_ coming ⟨h, consistent, steady⟩).1
  rintro past c coming s ⟨covers, consistent, steady⟩
  exact ⟨covers.answer consistent steady, consistent_answer c consistent, Steady.tail steady⟩

/-- After an acceptance a store that covers its log holds what is not expired, if the log is in
order with the new record. -/
theorem records_of_accepts (h : Covers past (c :: run) s) (consistent : Consistent s)
    (sorted : InOrder (past ++ log [c] s)) {data : Bytes} (accepts : (c.answer s).1 = .ok data) :
    records (c.answer s).2 = (past ++ log [c] s).filter fun r => !c.expires r := by
  obtain ⟨gone, split, expired⟩ := h
  rcases answer_cases c consistent with ⟨e, refused⟩ | ⟨data', r, -, carried, -, -, left⟩
  · rw [refused] at accepts
    cases accepts
  · rw [log_singleton_of_accepted accepts carried, split, List.append_assoc] at sorted ⊢
    -- nothing of what has left before passes the filter
    have nothing : (gone.filter fun r => !c.expires r) = [] :=
      List.filter_eq_nil_iff.mpr fun r member => by
        simp [expired r member c List.mem_cons_self]
    have queue : InOrder (records s ++ [r]) := (List.pairwise_append.mp sorted).2.1
    rw [List.filter_append, nothing, List.nil_append, left, queue.dropWhile_expires]

end Cover

theorem covers_empty (coming : List Call) : Covers [] coming IndexedStore.empty :=
  ⟨[], rfl, fun _ member => absurd member List.not_mem_nil⟩

/-! ### Exact retention -/

/-- A run with one limit in which the clock does not go back is steady. -/
theorem steady_of_fixed_limit {maxAge : Duration} {run : List Call}
    (limit : ∀ c ∈ run, c.maxAge = maxAge)
    (clock : run.Pairwise fun c d => c.clock.nanos ≤ d.clock.nanos) :
    Steady (run.map .verify) := by
  rw [Steady, calls_map_verify]
  refine clock.imp_of_mem fun {c d} first second forward => ⟨forward, ?_⟩
  rw [limit c first, limit d second, Duration.le_def]

/-- **Exact retention for traffic in order.** Take any run of verifications from an empty indexed
store with one limit, in which the clock does not go back and the accepted messages are in the order
of their timestamps. Right after each acceptance the store holds the records of all messages
accepted so far that are not expired at that time, each once and in the order of acceptance. -/
theorem retains_exactly {maxAge : Duration} {run : List Call}
    (limit : ∀ c ∈ run, c.maxAge = maxAge)
    (clock : run.Pairwise fun c d => c.clock.nanos ≤ d.clock.nanos)
    (sorted : InOrder (log run IndexedStore.empty)) :
    ∀ earlier c later, run = earlier ++ c :: later →
      ∀ data s, c.answer (storeAfter earlier IndexedStore.empty) = (.ok data, s) →
        s.toList = (log (earlier ++ [c]) IndexedStore.empty).filter
            (fun r => !r.isExpired c.now maxAge) ∧
          s.toList.Nodup := by
  rintro earlier c later rfl data s accepts
  have accepted : (c.answer (storeAfter earlier IndexedStore.empty)).1 = .ok data := by
    rw [accepts]
  have left : s = (c.answer (storeAfter earlier IndexedStore.empty)).2 := by rw [accepts]
  have window := isWindow_empty.storeAfter earlier
  have cover := (covers_empty (earlier ++ c :: later)).storeAfter IndexedStore.consistent_empty
    (steady_of_fixed_limit limit clock)
  -- the log up to this call is the beginning of the whole log, so it is in order too
  have soFar : InOrder (log earlier IndexedStore.empty ++
      log [c] (storeAfter earlier IndexedStore.empty)) := by
    rw [log_append, log_cons, ← List.append_assoc] at sorted
    exact (List.pairwise_append.mp sorted).1
  have held := records_of_accepts cover window.consistent soFar accepted
  have live : c.expires = fun r => r.isExpired c.now maxAge := by
    funext r
    rw [Call.expires, limit c (List.mem_append_right _ List.mem_cons_self)]
  constructor
  · rw [left, log_append]
    rw [live] at held
    exact held
  · rw [left]
    exact (window.answer c).nodup.of_map

/-- The record of a message that is signed some seconds after the epoch, under a nonce of equal
bytes. -/
def trialRecord (byte : UInt8) (seconds : Nat) : NonceRecord :=
  ⟨⟨List.replicate 32 byte, List.length_replicate⟩,
    Timestamp.ofInstant (Instant.epoch.after (Duration.ofSeconds seconds))⟩

/-- The verification of such a message at the time of its signature. -/
def trial (byte : UInt8) (seconds : Nat) : Call where
  clock := Instant.epoch.after (Duration.ofSeconds seconds)
  maxAge := defaultMaxAge
  signed := signWith [] ⟨(trialRecord byte seconds).timestamp, (trialRecord byte seconds).nonce, []⟩
  key := []

/-- A trial is accepted if its nonce is not queued. -/
theorem answer_trial {s : IndexedStore} (h : s.Consistent) (byte : UInt8) (seconds : Nat)
    (new : (trialRecord byte seconds).nonce ∉ s.toList.map NonceRecord.nonce) :
    ((trial byte seconds).answer s).1 = .ok [] ∧
      log [trial byte seconds] s = [trialRecord byte seconds] ∧
      ((trial byte seconds).answer s).2.toList =
        (s.toList ++ [trialRecord byte seconds]).dropWhile (trial byte seconds).expires := by
  have fresh : (trial byte seconds).expires (trialRecord byte seconds) = false := by
    refine Timestamp.isExpired_eq_false_iff.mpr (.inr ?_)
    simp [trial, trialRecord, Call.now]
  exact answer_of_signWith (c := trial byte seconds) (s := s) h rfl fresh new

/-- Three trials in order. -/
def trials : List Call := [trial 1 0, trial 2 20, trial 3 45]

/-- When the third of three messages is verified, the first is expired. The store holds the other
two then. -/
theorem third_trial_purges_first :
    (∀ c ∈ trials, c.maxAge = defaultMaxAge) ∧
      trials.Pairwise (fun c d => c.clock.nanos ≤ d.clock.nanos) ∧
      InOrder (log trials IndexedStore.empty) ∧
      ∃ s, (trial 3 45).answer (storeAfter [trial 1 0, trial 2 20] IndexedStore.empty) =
          (.ok [], s) ∧
        s.toList = [trialRecord 2 20, trialRecord 3 45] := by
  have limit : ∀ c ∈ trials, c.maxAge = defaultMaxAge := by simp [trials, trial]
  have clock : trials.Pairwise (fun c d => c.clock.nanos ≤ d.clock.nanos) := by
    simp only [trials, trial]
    decide
  -- the three messages are accepted one after the other
  have start := IndexedStore.consistent_empty
  obtain ⟨-, logged, left⟩ := answer_trial start 1 0 List.not_mem_nil
  have queue : (storeAfter [trial 1 0] IndexedStore.empty).toList = [trialRecord 1 0] :=
    left.trans (by decide)
  have next : (storeAfter [trial 1 0] IndexedStore.empty).Consistent :=
    consistent_storeAfter (s := IndexedStore.empty) _ start
  obtain ⟨-, logged', left'⟩ := answer_trial next 2 20 (by rw [queue]; decide)
  have queue' : (storeAfter [trial 1 0, trial 2 20] IndexedStore.empty).toList =
      [trialRecord 1 0, trialRecord 2 20] := left'.trans (by rw [queue]; decide)
  have last : (storeAfter [trial 1 0, trial 2 20] IndexedStore.empty).Consistent :=
    consistent_storeAfter (s := IndexedStore.empty) _ start
  obtain ⟨accepts, logged'', -⟩ := answer_trial last 3 45 (by rw [queue']; decide)
  have all : log trials IndexedStore.empty =
      [trialRecord 1 0, trialRecord 2 20, trialRecord 3 45] := by
    calc log trials IndexedStore.empty
      _ = log [trial 1 0] IndexedStore.empty ++
          (log [trial 2 20] (storeAfter [trial 1 0] IndexedStore.empty) ++
            log [trial 3 45] (storeAfter [trial 1 0, trial 2 20] IndexedStore.empty)) := by
        rw [trials, log_cons, log_cons (trial 2 20)]
        rfl
      _ = [trialRecord 1 0, trialRecord 2 20, trialRecord 3 45] := by
        rw [logged, logged', logged'']
        rfl
  have sorted : InOrder (log trials IndexedStore.empty) := by
    rw [all, InOrder]
    decide
  have held := (retains_exactly limit clock sorted [trial 1 0, trial 2 20] (trial 3 45) [] rfl []
    _ (Prod.ext accepts rfl)).1
  refine ⟨limit, clock, sorted, _, Prod.ext accepts rfl, held.trans ?_⟩
  change (log trials IndexedStore.empty).filter _ = _
  rw [all]
  decide

end SealedLink.OneTimeSignature
