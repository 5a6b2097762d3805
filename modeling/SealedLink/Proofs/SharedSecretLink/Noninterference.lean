import SealedLink.Proofs.OneTimeSignature.Log
import SealedLink.Proofs.OneTimeSignature.ReplaySafety
import SealedLink.Proofs.SharedSecretLink.Consumption

/-!
# Refused traffic does not interfere

Signed messages and links may be verified and opened against one store. A step that refuses its
message leaves the store as it was, without even a purge. So refused steps can be taken out of a
run, wherever they stand: every other step gets the same answer, and the store ends the same.
Messages that are not authentic are always refused, whatever the store holds, so who has no key
leaves no trace.

## Main definitions

* `SharedSecretLink.Step` — a verification or an opening
* `SharedSecretLink.Step.Refuses` — the answers by which a step refuses its message
* `SharedSecretLink.Step.IsAuthentic` — the message of a step was signed under the key for it
* `SharedSecretLink.Untouched` — a run without some steps goes on as it does with them

## Main results

* `SharedSecretLink.snd_perform_of_refuses` — a refusal has no effect
* `SharedSecretLink.refuses_of_not_isAuthentic` — what is not authentic is refused
* `SharedSecretLink.refused_traffic_does_not_interfere` — refused steps can be taken out of a run
-/

namespace SealedLink.SharedSecretLink

open RecordStore (records Consistent)

/-! ### Steps of a receiver -/

/-- A step against a store, with the clock and the limit of its own. -/
inductive Step where
  /-- The verification of a signed message. -/
  | verify (call : OneTimeSignature.Call)
  /-- The opening of a wire form. -/
  | openWire (clock : Instant) (maxAge : Duration) (wire secret : Bytes)

/-- The errors by which a wire form is refused and not used up. -/
def isRefusal : LaunchError → Bool
  | .invalidInput .. | .stale .. | .replay | .authenticationFailed _ => true
  | _ => false

namespace Step

/-- The answer of a step, and the store after it. -/
def perform {σ : Type} [NonceStore σ] : Step → σ → Except LaunchError Bytes × σ
  | verify call, s => call.answer s
  | openWire clock maxAge wire secret, s =>
    SharedSecretLink.openWire maxAge (Timestamp.ofInstant clock) wire secret s

/-- A step answers with a refusal: every error of a verification is one, of an opening those that
are not about the content of the envelope. -/
def Refuses : Step → Except LaunchError Bytes → Prop
  | _, .ok _ => False
  | verify _, .error _ => True
  | openWire .., .error e => isRefusal e = true

/-- The message of a step carries the code that is expected under the key for it. -/
def IsAuthentic : Step → Prop
  | verify call => ∃ m, SignedMessage.parse call.signed = .ok m ∧ m.mac = hmac call.key m.packed
  | openWire _ _ wire secret => ∃ outerNonce signed m, splitWire wire = .ok (outerNonce, signed) ∧
      SignedMessage.parse signed = .ok m ∧
      m.mac = hmac (Keys.derive secret outerNonce).signatureKey.toBytes m.packed

end Step

/-- A run without the steps at some places: the steps that are left get the answers that they get in
the whole run, and the store is the same at the end. -/
def Untouched {σ : Type} [NonceStore σ] (dropped : Nat → Bool) (steps : List Step) (s : σ) : Prop :=
  Run.answers Step.perform (Run.without dropped steps) s =
      Run.without dropped (Run.answers Step.perform steps s) ∧
    Run.final Step.perform (Run.without dropped steps) s = Run.final Step.perform steps s

/-! ### One step -/

section Step

variable {σ : Type} [NonceStore σ] [FaithfulStore σ] {s : σ}

theorem consistent_perform (t : Step) (h : Consistent s) : Consistent (t.perform s).2 := by
  cases t with
  | verify call => exact OneTimeSignature.consistent_answer call h
  | openWire clock maxAge wire secret =>
    rcases openWire_cases (σ := σ) maxAge (Timestamp.ofInstant clock) wire secret with
      ⟨field, -, reason, refused⟩ | ⟨outerNonce, -, opened⟩
    · rw [Step.perform, refused]
      exact h
    · rw [Step.perform, opened]
      exact OneTimeSignature.consistent_verify _ _ _ _ h

theorem consistent_final (steps : List Step) (h : Consistent s) :
    Consistent (Run.final Step.perform steps s) :=
  Run.final_of_forall (fun t _ => consistent_perform t) steps h

/-- A refusal has no effect. -/
theorem snd_perform_of_refuses {t : Step} (h : Consistent s) (refuses : t.Refuses (t.perform s).1) :
    (t.perform s).2 = s := by
  cases t with
  | verify call =>
    rcases OneTimeSignature.answer_cases call h with ⟨e, refused⟩ | ⟨data, r, accepts, -⟩
    · rw [Step.perform, refused]
    · rw [Step.perform, accepts] at refuses
      exact refuses.elim
  | openWire clock maxAge wire secret =>
    cases ends_openWire maxAge (Timestamp.ofInstant clock) wire secret h with
    | kept early same => rw [Step.perform, same]
    | used read carries late new queued ended again =>
      -- what is found after the nonce was recorded is no refusal
      rw [Step.perform, ended] at refuses
      cases late with
      | opened | fault => cases refuses
      | invalidInput late => exact absurd late List.not_mem_nil

theorem isRefusal_of_keeps {maxAge : Duration} {e : LaunchError} (h : Keeps maxAge e) :
    isRefusal e = true := by
  cases h <;> rfl

/-- What is not authentic is refused, whatever the store holds. -/
theorem refuses_of_not_isAuthentic {t : Step} (h : Consistent s) (forged : ¬ t.IsAuthentic) :
    t.Refuses (t.perform s).1 := by
  cases t with
  | verify call =>
    rcases OneTimeSignature.verify_cases call.maxAge call.now call.signed call.key h with
      ⟨e, refused⟩ | ⟨m, parsed, -, -, authentic, -⟩
    · rw [Step.perform, OneTimeSignature.Call.answer, refused]
      trivial
    · exact absurd ⟨m, parsed, authentic⟩ forged
  | openWire clock maxAge wire secret =>
    rcases openWire_cases (σ := σ) maxAge (Timestamp.ofInstant clock) wire secret with
      ⟨field, -, reason, refused⟩ | ⟨outerNonce, split, opened⟩
    · rw [Step.perform, refused]
      rfl
    · rcases OneTimeSignature.verify_cases maxAge (Timestamp.ofInstant clock)
          (wire.drop outerNonceSize) (Keys.derive secret outerNonce).signatureKey.toBytes h with
        ⟨e, refused⟩ | ⟨m, parsed, -, -, authentic, -⟩
      -- an error of the verification is the error of the opening
      · rw [Step.perform, opened, refused]
        exact isRefusal_of_keeps (keeps_of_verify h refused).1
      · exact absurd ⟨outerNonce, _, m, split, parsed, authentic⟩ forged

end Step

/-! ### Whole runs -/

/-- **Refused traffic does not interfere.** Take any run of verifications and openings against a
consistent indexed store, with any messages, secrets, clocks and limits, and any set of its places.
If the steps at these places refuse their messages, the run goes on without them as it does with
them. This is so in particular if their messages are not authentic. -/
theorem refused_traffic_does_not_interfere {s : IndexedStore} (h : s.Consistent)
    (steps : List Step) (dropped : Nat → Bool) :
    ((∀ n t answer, dropped n = true → steps[n]? = some t →
        (Run.answers Step.perform steps s)[n]? = some answer → t.Refuses answer) →
      Untouched dropped steps s) ∧
    ((∀ n t, dropped n = true → steps[n]? = some t → ¬ t.IsAuthentic) →
      Untouched dropped steps s) := by
  -- the store that a step finds
  have found (n : Nat) : Consistent (Run.final Step.perform (steps.take n) s) :=
    consistent_final (steps.take n) h
  have untouched (refused : ∀ n t, dropped n = true → steps[n]? = some t →
      t.Refuses (t.perform (Run.final Step.perform (steps.take n) s)).1) :
      Untouched dropped steps s :=
    Run.without_idle dropped fun n t drops place =>
      snd_perform_of_refuses (found n) (refused n t drops place)
  constructor
  · intro refuses
    refine untouched fun n t drops place => refuses n t _ drops place ?_
    rw [Run.getElem?_answers, place, Option.map_some]
  · intro forged
    exact untouched fun n t drops place =>
      refuses_of_not_isAuthentic (found n) (forged n t drops place)

/-- A wire form that is too short, a message, and the message again. -/
def disturbed : List Step :=
  [.openWire Instant.epoch OneTimeSignature.defaultMaxAge [] [7],
    .verify (OneTimeSignature.resent 0), .verify (OneTimeSignature.resent 0)]

/-- Without the first and the last step the message gets the answer that it gets between them. -/
theorem disturbed_message_is_accepted :
    IndexedStore.empty.Consistent ∧
      Run.answers Step.perform disturbed IndexedStore.empty =
        [.error (.invalidInput parameter "shorter than the outer nonce"), .ok [],
          .error .replay] ∧
      Run.answers Step.perform [.verify (OneTimeSignature.resent 0)] IndexedStore.empty =
        [.ok []] := by
  have consistent := IndexedStore.consistent_empty
  obtain ⟨accepts, -⟩ := OneTimeSignature.answer_of_signWith (c := OneTimeSignature.resent 0)
    (s := IndexedStore.empty) consistent rfl (by decide) List.not_mem_nil
  obtain ⟨-, -, -, -, again⟩ := OneTimeSignature.verify_again (s := IndexedStore.empty) consistent
    (Prod.ext accepts rfl)
  have given : Run.answers Step.perform disturbed IndexedStore.empty =
      [.error (.invalidInput parameter "shorter than the outer nonce"), .ok [],
        .error .replay] := by
    refine congrArg₂ List.cons rfl (congrArg₂ List.cons accepts (congrArg₂ List.cons ?_ rfl))
    exact congrArg Prod.fst again
  have refuses : ∀ n t answer, (n != 1) = true → disturbed[n]? = some t →
      (Run.answers Step.perform disturbed IndexedStore.empty)[n]? = some answer →
      t.Refuses answer := by
    rw [given]
    rintro (_ | _ | _ | n) t answer drops place told
    · cases place
      cases told
      rfl
    · cases drops
    · cases place
      cases told
      trivial
    · cases place
  have alone := ((refused_traffic_does_not_interfere consistent disturbed fun n => n != 1).1
    refuses).1
  rw [given] at alone
  exact ⟨consistent, given, alone⟩

end SealedLink.SharedSecretLink
