import Mathlib.Data.Finset.Card
import Mathlib.Data.Finset.Dedup
import SealedLink.Proofs.OneTimeSignature.Checks
import SealedLink.Proofs.OneTimeSignature.Run
import SealedLink.Proofs.OneTimeSignature.Signing
import SealedLink.Proofs.Run

/-!
# The store is a window on the log of acceptances

The log of a run lists the records of its accepted messages in the order of acceptance. A store that
starts empty always holds the end of the log: an acceptance adds to both at the same end, a purge
takes away at the other, and a refusal touches neither. This asks nothing of the clock or the limit,
which may move either way between the calls. So whatever is refused as a replay was accepted before.

## Main definitions

* `OneTimeSignature.storeAfter`, `OneTimeSignature.log` — the store after a run and the log of it
* `OneTimeSignature.IsWindow` — a store holds the end of a log, each nonce once

## Main results

* `OneTimeSignature.storeAfter_of_forall` — what every call keeps with its log, a run keeps
* `OneTimeSignature.answer_cases` — a call is refused without effect, or it is accepted and logged
* `OneTimeSignature.IsWindow.answer`, `OneTimeSignature.IsWindow.storeAfter` — a call and a run keep
  the window
* `OneTimeSignature.store_is_window_on_log` — the window of a store that starts empty
-/

namespace SealedLink.OneTimeSignature

open RecordStore (records Consistent)

/-- The store after a run of verifications. -/
abbrev storeAfter {σ : Type} [NonceStore σ] (run : List Call) (s : σ) : σ :=
  Run.final Call.answer run s

/-- The records of the accepted messages of a run, in the order of acceptance. -/
def log {σ : Type} [NonceStore σ] (run : List Call) (s : σ) : List NonceRecord :=
  (accepted (run.map .verify) s).filterMap Call.record?

/-! ### One call -/

section Step

variable {σ : Type} [NonceStore σ] {c : Call} {s : σ}

theorem perform_verify (c : Call) (s : σ) : (Action.verify c).perform s =
    ((c.answer s).1.toOption.map fun _ => c, (c.answer s).2) := by
  simp only [Action.perform]
  cases c.answer s with
  | mk answer s' => cases answer <;> rfl

/-- The log of a run begins with what its first call adds. -/
theorem log_cons (c : Call) (run : List Call) (s : σ) :
    log (c :: run) s = log [c] s ++ log run (c.answer s).2 := by
  simp only [log, List.map_cons, List.map_nil, accepted, perform_verify, List.append_nil,
    List.filterMap_append]

/-- The log of a run goes on with that of a later run, on the store that the first one leaves. -/
theorem log_append (run later : List Call) (s : σ) :
    log (run ++ later) s = log run s ++ log later (storeAfter run s) := by
  induction run generalizing s with
  | nil => rfl
  | cons c run ih =>
    rw [List.cons_append, log_cons, log_cons c run, ih, List.append_assoc]
    rfl

/-- What every call keeps, on the log with what the call adds to it, a run keeps. It may depend on
the calls to come. -/
theorem storeAfter_of_forall {P : List NonceRecord → List Call → σ → Prop}
    (kept : ∀ past c coming s, P past (c :: coming) s →
      P (past ++ log [c] s) coming (c.answer s).2)
    {past : List NonceRecord} {run : List Call} (coming : List Call) {s : σ}
    (h : P past (run ++ coming) s) : P (past ++ log run s) coming (storeAfter run s) := by
  induction run generalizing s past with
  | nil =>
    rw [show log [] s = [] from rfl, List.append_nil]
    exact h
  | cons c run ih =>
    rw [log_cons, ← List.append_assoc]
    exact ih (kept past c (run ++ coming) s h)

theorem log_singleton (c : Call) (s : σ) :
    log [c] s = ((c.answer s).1.toOption.bind fun _ => c.record?).toList := by
  simp only [log, List.map_cons, List.map_nil, accepted, perform_verify, List.append_nil]
  cases (c.answer s).1.toOption with
  | none => rfl
  | some data => cases carried : c.record? <;> simp [carried]

theorem log_singleton_of_refused {e : LaunchError} (refused : (c.answer s).1 = .error e) :
    log [c] s = [] := by
  rw [log_singleton, refused]
  rfl

theorem log_singleton_of_accepted {data : Bytes} {r : NonceRecord}
    (accepts : (c.answer s).1 = .ok data) (carried : c.record? = some r) : log [c] s = [r] := by
  rw [log_singleton, accepts, carried]
  rfl

variable [RecordStore σ]

/-- A call is refused and leaves the store as it was. Or it is accepted: then its message is fresh
and has a nonce that is not queued, and its record is added before the expired ones leave. -/
theorem answer_cases (c : Call) (h : Consistent s) :
    (∃ e, c.answer s = (.error e, s)) ∨
      ∃ data r, (c.answer s).1 = .ok data ∧ c.record? = some r ∧ c.expires r = false ∧
        r.nonce ∉ (records s).map NonceRecord.nonce ∧
        records (c.answer s).2 = (records s ++ [r]).dropWhile c.expires := by
  rcases verify_cases c.maxAge c.now c.signed c.key h with
    refused | ⟨m, parsed, fresh, absent, -, accepts⟩
  · exact .inl refused
  · refine .inr ⟨m.content.data, m.content.record, ?_, ?_, fresh, absent, ?_⟩
    · rw [Call.answer, accepts]
    · simp only [Call.record?, parsed]
    · rw [Call.answer, accepts]
      exact records_purge_enqueue c.maxAge c.now m.content.record h

theorem consistent_answer (c : Call) (h : Consistent s) : Consistent (c.answer s).2 :=
  consistent_verify c.maxAge c.now c.signed c.key h

theorem consistent_storeAfter (run : List Call) (h : Consistent s) :
    Consistent (storeAfter run s) :=
  Run.final_of_forall (fun c _ => consistent_answer c) run h

end Step

/-- A signed message carries the record of what was signed, whatever the key of the call. -/
theorem Call.record?_of_signWith {c : Call} {key : Bytes} {content : StampedData}
    (signed : c.signed = signWith key content) : c.record? = some content.record := by
  rw [Call.record?, signed, SignedMessage.parse_signWith]

/-- A message that was signed under the key of the call is accepted by a faithful store and logged,
if it is fresh and its nonce is not queued. -/
theorem answer_of_signWith {σ : Type} [NonceStore σ] [FaithfulStore σ] {c : Call} {s : σ}
    (h : Consistent s) {content : StampedData} (signed : c.signed = signWith c.key content)
    (fresh : c.expires content.record = false)
    (new : content.nonce ∉ (records s).map NonceRecord.nonce) :
    (c.answer s).1 = .ok content.data ∧ log [c] s = [content.record] ∧
      records (c.answer s).2 = (records s ++ [content.record]).dropWhile c.expires := by
  have unseen : NonceStore.contains content.nonce s = false :=
    (FaithfulStore.contains_eq_decide h).trans (decide_eq_false new)
  obtain ⟨s', accepts, -⟩ :=
    verify_signWith_of_fresh h (Timestamp.staleAge?_eq_none_iff.mpr fresh) new unseen
  rw [← signed] at accepts
  have answered : (c.answer s).1 = .ok content.data := by rw [Call.answer, accepts]
  have carried : c.record? = some content.record := Call.record?_of_signWith signed
  refine ⟨answered, log_singleton_of_accepted answered carried, ?_⟩
  -- the record that an acceptance adds is the one that the message carries
  rcases answer_cases c h with ⟨e, refused⟩ | ⟨data, r, -, carried', -, -, left⟩
  · rw [refused] at answered
    cases answered
  · obtain rfl := Option.some.inj (carried.symm.trans carried')
    exact left

/-! ### The window -/

/-- A store holds the end of a log, and no nonce twice. -/
structure IsWindow {σ : Type} [NonceStore σ] [RecordStore σ] (log : List NonceRecord) (s : σ) :
    Prop where
  consistent : Consistent s
  suffix : records s <:+ log
  nodup : ((records s).map NonceRecord.nonce).Nodup

namespace IsWindow

variable {σ : Type} [NonceStore σ] [RecordStore σ] {past : List NonceRecord} {s : σ}

/-- A call keeps the window, on the log with what the call adds to it. -/
theorem answer (h : IsWindow past s) (c : Call) : IsWindow (past ++ log [c] s) (c.answer s).2 := by
  rcases answer_cases c h.consistent with ⟨e, refused⟩ | ⟨data, r, accepts, carried, -, new, left⟩
  · have nothing : log [c] s = [] := log_singleton_of_refused (by rw [refused])
    rw [nothing, refused, List.append_nil]
    exact h
  · have added : log [c] s = [r] := log_singleton_of_accepted accepts carried
    have grown : ((records s ++ [r]).map NonceRecord.nonce).Nodup := by
      rw [List.map_append, List.map_singleton, ← List.concat_eq_append]
      exact h.nodup.concat new
    rw [added]
    refine ⟨consistent_answer c h.consistent, ?_, ?_⟩
    -- the purge works on the grown queue, which is the end of the grown log
    · rw [left]
      exact (List.dropWhile_suffix _).trans (List.suffix_append_self_iff.mpr h.suffix)
    · rw [left]
      exact grown.sublist ((List.dropWhile_sublist _).map _)

/-- A run keeps the window, on the log with what the run adds to it. -/
theorem storeAfter (h : IsWindow past s) (run : List Call) :
    IsWindow (past ++ log run s) (storeAfter run s) :=
  storeAfter_of_forall (P := fun past _ s => IsWindow past s) (fun _ c _ _ h => h.answer c) [] h

/-- The length of a store is the number of its nonces. -/
theorem length_eq_card (h : IsWindow past s) :
    NonceStore.length s = ((records s).map NonceRecord.nonce).toFinset.card := by
  rw [RecordStore.length_eq_length h.consistent, List.toFinset_card_of_nodup h.nodup,
    List.length_map]

end IsWindow

theorem isWindow_empty : IsWindow [] IndexedStore.empty :=
  ⟨IndexedStore.consistent_empty, List.suffix_refl [], List.nodup_nil⟩

/-! ### Where replays come from -/

/-- A logged record was accepted in the call that carries it. -/
theorem exists_call_of_mem_log {σ : Type} [NonceStore σ] [RecordStore σ] {run : List Call} {s : σ}
    (h : Consistent s) {r : NonceRecord} (member : r ∈ log run s) :
    ∃ earlier c later, run = earlier ++ c :: later ∧ c.record? = some r ∧
      ∃ data, (c.answer (storeAfter earlier s)).1 = .ok data := by
  induction run generalizing s with
  | nil => exact absurd member List.not_mem_nil
  | cons c run ih =>
    rw [log_cons, List.mem_append] at member
    -- the record is from this call, or from one of the calls after it
    rcases member with now | later
    · rcases answer_cases c h with ⟨e, refused⟩ | ⟨data, r', accepts, carried, -⟩
      · rw [log_singleton_of_refused (by rw [refused])] at now
        exact absurd now List.not_mem_nil
      · rw [log_singleton_of_accepted accepts carried] at now
        obtain rfl := List.mem_singleton.mp now
        exact ⟨[], c, run, rfl, carried, data, accepts⟩
    · obtain ⟨earlier, d, rest, rfl, carried, accepts⟩ := ih (consistent_answer c h) later
      exact ⟨c :: earlier, d, rest, rfl, carried, accepts⟩

/-- All that decides about a call on a store with the given records. -/
def Call.request (c : Call) (queued : List NonceRecord) : Request :=
  ⟨c.signed, c.key, c.now, c.maxAge, queued⟩

/-- A faithful store answers a call with the outcome of the checks. -/
theorem answer_fst_eq_judge {σ : Type} [NonceStore σ] [FaithfulStore σ] {s : σ} (c : Call)
    (h : Consistent s) : (c.answer s).1 = judge (c.request (records s)) Check.order :=
  verify_fst_eq_judge (c.request (records s)) h rfl

theorem Check.eq_nonce_of_error_eq_replay {q : Request} {check : Check}
    (h : check.error q = .replay) : check = .nonce := by
  cases check with
  | nonce => rfl
  | _ => cases h

/-- A faithful store refuses a call as a replay only if it holds the nonce of the message. -/
theorem queued_of_replay {σ : Type} [NonceStore σ] [FaithfulStore σ] {s : σ} {c : Call}
    (h : Consistent s) (replay : (c.answer s).1 = .error .replay) :
    ∃ r, c.record? = some r ∧ r.nonce ∈ (records s).map NonceRecord.nonce := by
  rw [answer_fst_eq_judge c h] at replay
  rcases parse_cases (c.request (records s)) with ⟨e, -, outcome⟩ | ⟨m, parsed, parts, -⟩
  -- a message that cannot be taken apart fails a check of its form and not that of its nonce
  · have early := (outcome []).trans ((outcome _).symm.trans replay)
    obtain ⟨passed, check, later, split, -, -, fault⟩ := judge_eq_error_iff.mp early
    obtain rfl := Check.eq_nonce_of_error_eq_replay fault.symm
    have form : Check.nonce ∈ [Check.codeLength, .stampLength, .timestamp] := by
      rw [split]
      exact List.mem_append_right _ List.mem_cons_self
    exact absurd form (by decide)
  · obtain ⟨-, check, -, -, -, fails, fault⟩ := judge_eq_error_iff.mp replay
    obtain rfl := Check.eq_nonce_of_error_eq_replay fault.symm
    rw [parts.nonce_passes_iff, not_not] at fails
    exact ⟨m.content.record, Call.record?_eq_some_iff.mpr ⟨m, parsed, rfl⟩, fails⟩

/-- **The store is a window on the log of acceptances.** After every run of verifications from an
empty indexed store, with any messages, keys, clocks and limits, the queue is the end of the log,
its nonces are distinct, and its length is their number. A call is refused as a replay only if an
earlier call of the run was accepted with the same nonce. -/
theorem store_is_window_on_log (run : List Call) :
    let s := storeAfter run IndexedStore.empty
    s.toList <:+ log run IndexedStore.empty ∧
      (s.toList.map NonceRecord.nonce).Nodup ∧
      NonceStore.length s = (s.toList.map NonceRecord.nonce).toFinset.card ∧
      ∀ c : Call, (c.answer s).1 = .error .replay → ∃ r, c.record? = some r ∧
        ∃ (earlier : List Call) (d : Call) (later : List Call) (r' : NonceRecord),
          run = earlier ++ d :: later ∧ d.record? = some r' ∧ r'.nonce = r.nonce ∧
          ∃ data, (d.answer (storeAfter earlier IndexedStore.empty)).1 = .ok data := by
  intro s
  have window : IsWindow (log run IndexedStore.empty) s := isWindow_empty.storeAfter run
  refine ⟨window.suffix, window.nodup, window.length_eq_card, ?_⟩
  intro c replay
  -- the queued record with this nonce is in the log, since the queue is the end of it
  obtain ⟨r, carried, queued⟩ := queued_of_replay window.consistent replay
  obtain ⟨r', member, same⟩ := List.mem_map.mp queued
  obtain ⟨earlier, d, later, split, carried', accepts⟩ :=
    exists_call_of_mem_log IndexedStore.consistent_empty (window.suffix.subset member)
  exact ⟨r, carried, earlier, d, later, r', split, carried', same, accepts⟩

end SealedLink.OneTimeSignature
