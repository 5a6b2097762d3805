import SealedLink.Proofs.Environment.Script
import SealedLink.Proofs.SharedSecretLink.Sealing

/-!
# The random bytes of a sealed link

Every random byte of a link comes from one of three requests, and each request has a part of the
wire form to itself. Nothing is drawn for an empty secret, and nothing after a request that fails.
So in a scripted environment it is known in advance which bytes of the script a link is made from,
whatever was sealed or drawn before it.

## Main definitions

* `SharedSecretLink.Seals` — what a sealing answers, draws and leaves behind
* `SharedSecretLink.SealingOutcome` — how a sealing can end
* `SharedSecretLink.ScriptedStep` — what is done with a scripted environment
* `SharedSecretLink.journal` — what is seen of a scripted environment during some steps

## Main results

* `SharedSecretLink.exists_seals` — a sealing ends in one of these ways
* `SharedSecretLink.servedFrom_journal` — the script is used up in order
* `SharedSecretLink.sealing_draws_in_order` — which random bytes are drawn, and where they end up
-/

namespace SealedLink

theorem OneTimeSignature.records_sign {ε : Type} [Environment ε] (data key : Bytes) :
    Randomized.Records (sign data key : Randomized ε Bytes) (sign data key) :=
  Randomized.records_timestamp.bind fun _ =>
    (Randomized.records_request _).bind fun _ => Randomized.records_pure _

namespace SharedSecretLink

variable {ε : Type} [Environment ε] {env left : ε} {plaintext secret : Bytes}
variable {answer : Except LaunchError Bytes} {made : List RandomRequest}

/-! ### The requests of a sealing -/

theorem records_sealWire (plaintext secret : Bytes) :
    Randomized.Records (sealWire plaintext secret : Randomized ε Bytes)
      (sealWire plaintext secret) := by
  refine (Randomized.records_ofExcept _).bind fun _ => ?_
  refine (Randomized.records_request _).bind fun outerNonce => ?_
  refine (Randomized.records_request _).bind fun nonce => ?_
  refine (Randomized.records_ofExcept _).bind fun envelope => ?_
  exact (OneTimeSignature.records_sign _ _).bind fun _ => Randomized.records_pure _

/-- A sealing has an answer and leaves an environment, and it is the same with the requests noted
down, which are then the given ones. -/
structure Seals (env : ε) (plaintext secret : Bytes) (answer : Except LaunchError Bytes)
    (made : List RandomRequest) (left : ε) : Prop where
  runIn_eq : (sealWire plaintext secret).runIn env = (answer, left)
  runIn_start_eq : (sealWire plaintext secret).runIn (RecordedEnvironment.start env) =
    (answer, ⟨left, made⟩)

/-- The notes tell all. -/
theorem seals_of_runIn_start
    (h : (sealWire plaintext secret).runIn (RecordedEnvironment.start env) =
      (answer, ⟨left, made⟩)) :
    Seals env plaintext secret answer made left := by
  obtain ⟨_, -, same⟩ := records_sealWire plaintext secret env []
  obtain ⟨answers, environments⟩ := Prod.mk.inj (h.symm.trans same)
  obtain ⟨lefts, -⟩ := RecordedEnvironment.mk.inj environments
  exact ⟨Prod.ext answers.symm lefts.symm, h⟩

/-- An empty secret is refused without a request. -/
theorem seals_of_empty (env : ε) (plaintext : Bytes) :
    Seals env plaintext [] (.error (.invalidInput "key" "must not be empty")) [] env :=
  seals_of_runIn_start (runIn_sealWire_of_empty plaintext (RecordedEnvironment.start env))

namespace Draws

variable (draws : Draws env)

/-- The requests and their answers. -/
def requests : List RandomRequest :=
  [⟨12, .ok draws.outerNonce⟩, ⟨12, .ok draws.nonce⟩, ⟨32, .ok draws.signatureNonce⟩]

/-- The requests succeed where they are noted down. -/
def recorded : Draws (RecordedEnvironment.start env) where
  outerNonce := draws.outerNonce
  nonce := draws.nonce
  signatureNonce := draws.signatureNonce
  encrypting := ⟨draws.encrypting, draws.requests.take 1⟩
  signing := ⟨draws.signing, draws.requests.take 2⟩
  left := ⟨draws.left, draws.requests⟩
  draw_outerNonce := RecordedEnvironment.draw_of_inner draws.draw_outerNonce _
  draw_nonce := RecordedEnvironment.draw_of_inner draws.draw_nonce _
  draw_signatureNonce := RecordedEnvironment.draw_of_inner draws.draw_signatureNonce _

end Draws

/-- How a sealing can end: with the first request that fails, or with all three answers in the wire
form. -/
inductive SealingOutcome (env : ε) (plaintext secret : Bytes) :
    Except LaunchError Bytes → List RandomRequest → ε → Prop
  | noOuterNonce {reason : String} {left : ε}
      (failed : Environment.draw 12 env = (.error reason, left)) :
      SealingOutcome env plaintext secret (.error (.crypto (.randomUnavailable reason)))
        [⟨12, .error reason⟩] left
  | noNonce {outerNonce : Octets 12} {reason : String} {encrypting left : ε}
      (first : Environment.draw 12 env = (.ok outerNonce, encrypting))
      (failed : Environment.draw 12 encrypting = (.error reason, left)) :
      SealingOutcome env plaintext secret (.error (.crypto (.randomUnavailable reason)))
        [⟨12, .ok outerNonce⟩, ⟨12, .error reason⟩] left
  | noSignatureNonce {outerNonce nonce : Octets 12} {reason : String} {encrypting signing left : ε}
      (first : Environment.draw 12 env = (.ok outerNonce, encrypting))
      (second : Environment.draw 12 encrypting = (.ok nonce, signing))
      (failed : Environment.draw 32 signing = (.error reason, left)) :
      SealingOutcome env plaintext secret (.error (.crypto (.randomUnavailable reason)))
        [⟨12, .ok outerNonce⟩, ⟨12, .ok nonce⟩, ⟨32, .error reason⟩] left
  | sealed {wire : Bytes} (draws : Draws env) (layout : draws.HasLayout plaintext secret wire) :
      SealingOutcome env plaintext secret (.ok wire) draws.requests draws.left

/-- A failed request is the fault of the system. -/
theorem SealingOutcome.kind_eq
    (h : SealingOutcome env plaintext secret answer made left) {e : LaunchError}
    (failed : answer = .error e) : e.kind = .resource := by
  cases h with
  | sealed => cases failed
  | _ =>
    cases failed
    rfl

/-- If all requests succeed, the sealing does. -/
theorem SealingOutcome.eq_of_draws
    (h : SealingOutcome env plaintext secret answer made left) (draws : Draws env) :
    made = draws.requests ∧ left = draws.left ∧
      ∃ wire, answer = .ok wire ∧ draws.HasLayout plaintext secret wire := by
  cases h with
  | noOuterNonce failed => cases draws.draw_outerNonce.symm.trans failed
  | noNonce first failed =>
    cases draws.draw_outerNonce.symm.trans first
    cases draws.draw_nonce.symm.trans failed
  | noSignatureNonce first second failed =>
    cases draws.draw_outerNonce.symm.trans first
    cases draws.draw_nonce.symm.trans second
    cases draws.draw_signatureNonce.symm.trans failed
  | sealed draws' layout =>
    cases draws.unique draws'
    exact ⟨rfl, rfl, _, rfl, layout⟩

/-- A plaintext within the limit of the cipher is sealed unless a request fails. -/
theorem exists_seals (env : ε) (key : secret ≠ [])
    (fits : plaintext.length ≤ Gcm.maxPlaintextLength) :
    ∃ answer made left, Seals env plaintext secret answer made left ∧
      SealingOutcome env plaintext secret answer made left := by
  obtain ⟨reason, left, failed⟩ | ⟨outerNonce, encrypting, first⟩ :=
    Environment.draw_eq_error_or_ok outerNonceSize env
  · exact ⟨_, _, _, seals_of_runIn_start (runIn_sealWire_of_no_outerNonce plaintext key
      (RecordedEnvironment.draw_of_inner failed _)), .noOuterNonce failed⟩
  have first' := RecordedEnvironment.draw_of_inner first []
  obtain ⟨reason, left, failed⟩ | ⟨nonce, signing, second⟩ :=
    Environment.draw_eq_error_or_ok 12 encrypting
  · exact ⟨_, _, _, seals_of_runIn_start (runIn_sealWire_of_no_nonce plaintext key first'
      (RecordedEnvironment.draw_of_inner failed _)), .noNonce first failed⟩
  have second' := RecordedEnvironment.draw_of_inner second [⟨outerNonceSize, .ok outerNonce⟩]
  -- whatever the answers are, the plaintext can be encrypted now
  obtain ⟨envelope, encrypted, -⟩ := ModernEnvelope.exists_encrypt
    (Octets.length_toBytes (Keys.derive secret outerNonce).cipherKey) fits nonce
  obtain ⟨reason, left, failed⟩ | ⟨signatureNonce, left, third⟩ :=
    Environment.draw_eq_error_or_ok StampedData.nonceSize signing
  · exact ⟨_, _, _, seals_of_runIn_start (runIn_sealWire_of_no_signatureNonce key first' second'
      (RecordedEnvironment.draw_of_inner failed _) encrypted),
      .noSignatureNonce first second failed⟩
  let draws : Draws env :=
    ⟨outerNonce, nonce, signatureNonce, encrypting, signing, left, first, second, third⟩
  exact ⟨_, _, _, seals_of_runIn_start (runIn_sealWire draws.recorded key encrypted),
    .sealed draws (draws.hasLayout_wire encrypted)⟩

/-! ### Scripts -/

open ScriptedEnvironment (Event ServedFrom Accounts)

/-- What is done with a scripted environment. -/
inductive ScriptedStep where
  /-- Bytes are put at the end of the script. -/
  | script (bytes : Bytes)
  /-- Random bytes are drawn. -/
  | draw (n : Nat)
  /-- A plaintext is sealed. -/
  | sealBytes (plaintext secret : Bytes)
  /-- The clock is set. -/
  | setClock (clock : Instant)
  /-- From now on every request fails. -/
  | takeOffline

namespace ScriptedStep

/-- What is seen of the environment during a step. -/
def events (env : ScriptedEnvironment) : ScriptedStep → List Event
  | script bytes => [.queued bytes]
  | draw n => [.requested ⟨n, (Environment.draw n env).1⟩]
  | sealBytes plaintext secret =>
    ((sealWire plaintext secret).runIn (RecordedEnvironment.start env)).2.requests.map .requested
  | setClock _ | takeOffline => []

/-- The environment after a step. -/
def next (env : ScriptedEnvironment) : ScriptedStep → ScriptedEnvironment
  | script bytes => env.append bytes
  | draw n => (Environment.draw n env).2
  | sealBytes plaintext secret => ((sealWire plaintext secret).runIn env).2
  | setClock clock => { env with clock }
  | takeOffline => env.takeOffline

end ScriptedStep

/-- What is seen of an environment during some steps. -/
def journal (env : ScriptedEnvironment) : List ScriptedStep → List Event
  | [] => []
  | step :: steps => step.events env ++ journal (step.next env) steps

/-- A step serves what is next in the script. -/
theorem ScriptedStep.servedFrom {env : ScriptedEnvironment} {queued served : Bytes} {answered : Nat}
    (h : Accounts env queued served answered) (step : ScriptedStep) {later : List Event}
    (rest : ∀ queued' served' answered', Accounts (step.next env) queued' served' answered' →
      ServedFrom queued' served' answered' later) :
    ServedFrom queued served answered (step.events env ++ later) := by
  cases step with
  | script bytes => exact rest _ _ _ (h.append bytes)
  | draw n => exact h.servedFrom_of_draw rfl (rest queued)
  | sealBytes plaintext secret =>
    -- the requests that were noted lead to the environment in which the next step is taken
    obtain ⟨made, requests, noted⟩ := records_sealWire plaintext secret env []
    rw [events, RecordedEnvironment.start, noted]
    exact h.servedFrom_of_requests requests (rest queued)
  | setClock clock => exact rest _ _ _ ⟨h.queued_eq, h.counter_eq⟩
  | takeOffline => exact rest _ _ _ ⟨h.queued_eq, h.counter_eq⟩

/-- Whatever steps are taken, the script is used up in order. -/
theorem servedFrom_journal {env : ScriptedEnvironment} {queued served : Bytes} {answered : Nat}
    (h : Accounts env queued served answered) (steps : List ScriptedStep) :
    ServedFrom queued served answered (journal env steps) := by
  induction steps generalizing env queued served answered with
  | nil => trivial
  | cons step steps ih => exact step.servedFrom h fun _ _ _ next => ih next

/-- **The random bytes of a link.** Under an empty secret nothing is drawn. Under any other, a
plaintext within the limit of the cipher is sealed with three requests, of 12, 12 and 32 bytes, and
their answers are found in the wire form at fixed offsets. If a request fails it is the last one,
and its error is the answer. In a scripted environment, all requests together use up the script in
the order in which it is queued; only behind its end they are answered with a byte that counts the
answers. -/
theorem sealing_draws_in_order (env : ε) (plaintext secret : Bytes) :
    Seals env plaintext [] (.error (.invalidInput "key" "must not be empty")) [] env ∧
    (secret ≠ [] → plaintext.length ≤ Gcm.maxPlaintextLength →
      ∃ answer made left, Seals env plaintext secret answer made left ∧
        SealingOutcome env plaintext secret answer made left ∧
        ∀ e, answer = .error e → e.kind = .resource) ∧
    ∀ clock steps,
      ServedFrom [] [] 0 (journal (ScriptedEnvironment.atInstant clock) steps) := by
  refine ⟨seals_of_empty env plaintext, ?_, ?_⟩
  · intro key fits
    obtain ⟨answer, made, left, seals, outcome⟩ := exists_seals env key fits
    exact ⟨answer, made, left, seals, outcome, fun _ => outcome.kind_eq⟩
  · intro clock steps
    exact servedFrom_journal (ScriptedEnvironment.accounts_atInstant clock) steps

/-- The first link that is sealed in an environment without a script is made from its counter. -/
theorem epoch_sealing_draws_in_order :
    ([7] : Bytes) ≠ [] ∧ ([1, 2, 3] : Bytes).length ≤ Gcm.maxPlaintextLength ∧
      ∃ wire, Seals (ScriptedEnvironment.atInstant Instant.epoch) [1, 2, 3] [7] (.ok wire)
          epochDraws.requests epochDraws.left ∧
        epochDraws.HasLayout [1, 2, 3] [7] wire := by
  have key : ([7] : Bytes) ≠ [] := List.cons_ne_nil _ _
  have fits : ([1, 2, 3] : Bytes).length ≤ Gcm.maxPlaintextLength := by decide
  obtain ⟨-, links, -⟩ :=
    sealing_draws_in_order (ScriptedEnvironment.atInstant Instant.epoch) [1, 2, 3] [7]
  obtain ⟨answer, made, left, seals, outcome, -⟩ := links key fits
  obtain ⟨rfl, rfl, wire, rfl, layout⟩ := outcome.eq_of_draws epochDraws
  exact ⟨key, fits, wire, seals, layout⟩

/-- Scripted bytes come first, and a request is filled up with a byte of its own. -/
example : journal (ScriptedEnvironment.atInstant Instant.epoch)
    [.script [9, 8, 7], .draw 2, .draw 3, .draw 2] =
      [.queued [9, 8, 7], .requested ⟨2, .ok ⟨[9, 8], rfl⟩⟩, .requested ⟨3, .ok ⟨[7, 2, 2], rfl⟩⟩,
        .requested ⟨2, .ok ⟨[3, 3], rfl⟩⟩] := rfl

end SharedSecretLink

end SealedLink
