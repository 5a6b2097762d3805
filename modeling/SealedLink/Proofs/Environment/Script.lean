import SealedLink.Environment.Scripted
import SealedLink.Proofs.Environment.Recorded

/-!
# How a script is used up

A scripted environment answers from its script as long as there is one. Seen from outside there are
the bytes that were queued, in order, and the answers. An answer goes on in the queued bytes where
the one before it stopped; only if it takes all of them it may be longer, and is filled up with a
byte that tells how many requests were answered before.

## Main definitions

* `ScriptedEnvironment.Event` — bytes that are queued, and requests
* `ScriptedEnvironment.ServedFrom` — the requests of a journal are answered as above
* `ScriptedEnvironment.Accounts` — what is left of the queued bytes, and the count

## Main results

* `ScriptedEnvironment.Accounts.servedFrom_of_requests` — requests one after the other
-/

namespace SealedLink.ScriptedEnvironment

/-- What is seen of a scripted environment from outside. -/
inductive Event where
  /-- More bytes are queued. -/
  | queued (bytes : Bytes)
  /-- Random bytes are asked for. -/
  | requested (request : RandomRequest)

/-- A journal goes on from the bytes that are queued, those of them that are served, and the number
of requests that are answered. The scripted part of an answer continues the bytes that are served.
It is filled up only if all bytes are served then, by bytes that count the answered requests. -/
def ServedFrom (queued served : Bytes) (answered : Nat) : List Event → Prop
  | [] => True
  | .queued bytes :: journal => ServedFrom (queued ++ bytes) served answered journal
  | .requested ⟨_, .error _⟩ :: journal => ServedFrom queued served answered journal
  | .requested ⟨_, .ok x⟩ :: journal =>
    ∃ scripted filler, x.toBytes = scripted ++ filler ∧ served ++ scripted <+: queued ∧
      (filler ≠ [] → served ++ scripted = queued) ∧
      (∀ b ∈ filler, b.toNat = (1 + answered) % 256) ∧
      ServedFrom queued (served ++ scripted) (answered + 1) journal

/-- What is not served is in the script, and the counter counts the answered requests. -/
structure Accounts (env : ScriptedEnvironment) (queued served : Bytes) (answered : Nat) : Prop where
  queued_eq : queued = served ++ env.script
  counter_eq : env.counter = UInt8.ofNat (1 + answered)

variable {env left : ScriptedEnvironment} {queued served : Bytes} {answered : Nat}

theorem accounts_atInstant (clock : Instant) : Accounts (atInstant clock) [] [] 0 := ⟨rfl, rfl⟩

theorem Accounts.append (h : Accounts env queued served answered) (bytes : Bytes) :
    Accounts (env.append bytes) (queued ++ bytes) served answered := by
  refine ⟨?_, h.counter_eq⟩
  rw [h.queued_eq, List.append_assoc]
  rfl

/-- An answer is the next part of the script, filled up if there is not enough of it. -/
theorem Accounts.servedFrom_of_draw (h : Accounts env queued served answered) {n : Nat}
    {answer : Except String (Octets n)} {journal : List Event}
    (drawn : Environment.draw n env = (answer, left))
    (rest : ∀ served' answered', Accounts left queued served' answered' →
      ServedFrom queued served' answered' journal) :
    ServedFrom queued served answered (.requested ⟨n, answer⟩ :: journal) := by
  change env.draw n = _ at drawn
  unfold draw at drawn
  split at drawn
  · cases drawn
    exact rest _ _ h
  · cases drawn
    have next : Accounts { env with script := env.script.drop n, counter := env.counter + 1 } queued
        (served ++ env.script.take n) (answered + 1) := by
      constructor
      · rw [h.queued_eq, List.append_assoc, List.take_append_drop]
      · rw [h.counter_eq]
        exact (UInt8.ofNat_add (1 + answered) 1).symm
    refine ⟨env.script.take n, List.replicate (n - env.script.length) env.counter, rfl, ?_, ?_, ?_,
      rest _ _ next⟩
    · rw [h.queued_eq]
      exact (List.prefix_append_right_inj served).mpr (List.take_prefix n env.script)
    · intro filled
      have exhausted : env.script.length ≤ n := by
        refine Nat.not_lt.mp fun more => filled ?_
        rw [Nat.sub_eq_zero_of_le (Nat.le_of_lt more)]
        rfl
      rw [h.queued_eq, List.take_of_length_le exhausted]
    · intro b member
      rw [List.eq_of_mem_replicate member, h.counter_eq, UInt8.toNat_ofNat']

/-- Requests one after the other, and what follows them. -/
theorem Accounts.servedFrom_of_requests (h : Accounts env queued served answered)
    {made : List RandomRequest} {journal : List Event}
    (requests : Environment.Requests env made left)
    (rest : ∀ served' answered', Accounts left queued served' answered' →
      ServedFrom queued served' answered' journal) :
    ServedFrom queued served answered (made.map .requested ++ journal) := by
  induction requests generalizing served answered with
  | nil => exact rest _ _ h
  | cons first _ ih => exact h.servedFrom_of_draw first fun _ _ next => ih next rest

end SealedLink.ScriptedEnvironment
