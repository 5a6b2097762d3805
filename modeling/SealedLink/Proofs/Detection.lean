import SealedLink.Proofs.OneTimeSignature.Checks
import SealedLink.Proofs.Package.FirstOccurrence
import SealedLink.Proofs.PublicKeyLink.RoundTrip
import SealedLink.Proofs.PublicKeyLink.Stages
import SealedLink.Proofs.SharedSecretLink.RoundTrip

/-!
# Detection agrees with the protocols

Which kind of link a query carries is told from look-ups alone: one field with a value for a link
under a shared secret, four for one under key pairs. Opening looks closer, at blanks, base64 texts
and a version that may be missing, but the two never disagree. A link that is opened, or refused for
what is in it, has been detected, and what is sealed is detected as what it is and not as the other
kind.

## Main definitions

* `SharedSecretLink.notSet` — the error for a query without a link
* `PublicKeyLink.IsComplete` — a query passes the checks of its version and of empty fields
* `PublicKeyLink.IsLate` — the errors that are found behind these checks
* `SharedSecretLink.IsDetected`, `PublicKeyLink.IsDetected` — a link of one kind and not of the other

## Main results

* `SharedSecretLink.openQuery_eq_notSet_iff` — nothing is set exactly if nothing is detected
* `PublicKeyLink.isSealed_of_isComplete` — what gets as far as the keys is detected
* `PublicKeyLink.isLate_iff_isComplete` — the error of an opening tells whether it got that far
* `detection_agrees` — detection, opening and sealing of both protocols
-/

namespace SealedLink

/-- Texts that begin differently differ. -/
theorem ne_of_head?_ne {s t : String} (h : s.toList.head? ≠ t.toList.head?) : s ≠ t := by
  rintro rfl
  exact h rfl

/-! ### Links under a shared secret -/

namespace SharedSecretLink

/-- The error for a query without a link. -/
def notSet : LaunchError := .invalidInput parameter "value either does not exist or is not set"

section Opening

variable {σ : Type} [NonceStore σ] {maxAge : Duration} {now : Timestamp}

theorem invalid_base64_ne_notSet (reason : String) :
    LaunchError.invalidInput parameter s!"invalid base64: {reason}" ≠ notSet := by
  intro same
  refine ne_of_head?_ne ?_ (LaunchError.invalidInput.inj same).2
  simp [toString]

theorem wireOfQuery_eq_notSet_iff {query : String} :
    wireOfQuery query = .error notSet ↔ isSealed query = false := by
  rw [← Bool.not_eq_true, isSealed, Query.hasValue_iff]
  unfold wireOfQuery
  cases found : Query.get? query parameter with
  | none => simp [notSet]
  | some value =>
    by_cases empty : value = ""
    · simp [empty, notSet, Option.filter]
    · have kept : (some value).filter (· ≠ "") = some value := by simp [empty]
      simp only [kept]
      cases Base64.decodeText value with
      | ok wire => simp [empty]
      | error fault => simp [empty, invalid_base64_ne_notSet]

/-! Whatever else an opening refuses, it gives another error. -/

variable {signed key wire secret : Bytes} {s s' : σ} {e : LaunchError}

theorem check_error_ne_notSet (q : OneTimeSignature.Request) (c : OneTimeSignature.Check) :
    c.error q ≠ notSet := by
  cases c <;> simp [OneTimeSignature.Check.error, notSet, parameter]

theorem ne_notSet_of_parse (h : SignedMessage.parse signed = .error e) : e ≠ notSet := by
  -- a message that cannot be taken apart fails a check of its form, whatever the clock
  rcases OneTimeSignature.parse_cases ⟨signed, [], ⟨0, Nat.zero_le _⟩, ⟨0⟩, []⟩ with
    ⟨e', unparsed, outcome⟩ | ⟨m, parsed, -⟩
  · obtain rfl : e' = e := Except.error.inj (unparsed.symm.trans h)
    obtain ⟨-, c, -, -, -, -, rfl⟩ := OneTimeSignature.judge_eq_error_iff.mp (outcome [])
    exact check_error_ne_notSet _ c
  · cases parsed.symm.trans h

theorem ne_notSet_of_verify
    (h : OneTimeSignature.verify maxAge now signed key s = (.error e, s')) : e ≠ notSet := by
  unfold OneTimeSignature.verify at h
  cases parsed : SignedMessage.parse signed with
  | error e' =>
    rw [parsed] at h
    cases h
    exact ne_notSet_of_parse parsed
  | ok m =>
    rw [parsed] at h
    simp only [SignedMessage.authenticate_eq] at h
    split at h
    · cases h
      simp [notSet]
    · split at h
      · cases h
        simp [notSet]
      · by_cases authentic : m.mac = hmac key m.packed
        · simp only [authentic, if_true] at h
          split at h <;> cases h
          simp [notSet]
        · simp only [authentic, if_false] at h
          cases h
          simp [notSet]

theorem ne_notSet_of_splitWire (h : splitWire wire = .error e) : e ≠ notSet := by
  unfold splitWire at h
  split at h <;> cases h
  simp [notSet]

theorem ne_notSet_of_ofCrypto {α : Type} {result : Except CryptoError α}
    (h : LaunchError.ofCrypto result = .error e) : e ≠ notSet := by
  cases result <;> cases h
  simp [notSet]

theorem ne_notSet_of_textOfPlaintext {plaintext : Bytes}
    (h : textOfPlaintext plaintext = .error e) : e ≠ notSet := by
  unfold textOfPlaintext at h
  split at h <;> cases h
  simp [notSet, parameter]

theorem ne_notSet_of_openWire (h : openWire maxAge now wire secret s = (.error e, s')) :
    e ≠ notSet := by
  unfold openWire at h
  by_cases empty : secret = []
  · simp only [checkKey, empty, if_true] at h
    cases h
    simp [notSet, parameter]
  · simp only [checkKey_of_ne_nil empty] at h
    split at h
    · rename_i split
      cases h
      exact ne_notSet_of_splitWire split
    · split at h
      · rename_i refused
        cases h
        exact ne_notSet_of_verify refused
      · exact ne_notSet_of_ofCrypto (Prod.mk.inj h).1

/-- Nothing is set exactly if nothing is detected, whatever the secret, the clock and the store. -/
theorem openQuery_eq_notSet_iff {query : String} :
    (openQuery maxAge now query secret s).1 = .error notSet ↔ isSealed query = false := by
  rw [← wireOfQuery_eq_notSet_iff, openQuery]
  cases wireOfQuery query with
  | error e => simp
  | ok wire =>
    -- once a wire form has been found, no error is the one for a query without a link
    simp only [reduceCtorEq, iff_false]
    split
    · rename_i refused
      exact fun same => ne_notSet_of_openWire refused (Except.error.inj same)
    · exact fun same => ne_notSet_of_textOfPlaintext same rfl

end Opening

end SharedSecretLink

/-! ### Launch packages -/

namespace Package

variable {p : Package} {query : String}

/-- A field in which a package has something was found by a look-up. -/
theorem hasValue_of_holds {field : Field} (h : p.Holds field (Query.get? query field.name))
    (present : ¬ p.Lacks field) : Query.hasValue query field.name = true := by
  rw [Query.hasValue_iff]
  cases found : Query.get? query field.name with
  | none =>
    rw [found] at h
    exact absurd h present
  | some text =>
    rw [found] at h
    refine ⟨text, rfl, ?_⟩
    rintro rfl
    exact present (spells_empty_iff.mp h)

/-- A query that is read as a package without gaps is detected. -/
theorem isSealed_of_deserialize (h : deserialize query = .ok p)
    (present : ∀ field, ¬ p.Lacks field) : isSealed query = true := by
  have holds := deserialize_eq_ok_iff_holds.mp h
  rw [isSealed, List.all_eq_true]
  intro field _
  exact hasValue_of_holds (holds field) (present field)

/-- Values that are detected need not be readable. -/
example : isSealed "SEUS=!&ESP=!&IV=+&V=one" = true ∧
    (deserialize "SEUS=!&ESP=!&IV=+&V=one").isOk = false := by
  decide +kernel

end Package

/-! ### Links under key pairs -/

namespace PublicKeyLink

open Package (Field)

/-- A query is read as a package that passes the checks of its version and of empty fields. -/
def IsComplete (query : String) : Prop :=
  ∃ p, Package.deserialize query = .ok p ∧ checkVersion p = .ok () ∧
    p.cipherPayload ≠ [] ∧ p.wrappedKey ≠ [] ∧ p.vector ≠ []

/-- The errors that are found behind the checks of the version and of empty fields. -/
inductive IsLate : LaunchError → Prop
  | vectorLength (length : Nat) :
    IsLate (.invalidInput Field.vector.name s!"expected {Cbc.blockSize} bytes, got {length}")
  | decryption : IsLate .decryptionFailed
  | authentication (reason : String) : IsLate (.authenticationFailed reason)
  | text : IsLate (.invalidInput "plaintext" "not valid UTF-8")

theorem checkVersion_eq_ok_iff {p : Package} :
    checkVersion p = .ok () ↔ p.version = protocolVersion := by
  unfold checkVersion
  split <;> simp [*]

theorem isSealed_of_isComplete {query : String} (h : IsComplete query) :
    Package.isSealed query = true := by
  obtain ⟨p, read, version, payload, key, vector⟩ := h
  refine Package.isSealed_of_deserialize read fun field => ?_
  cases field with
  | cipherPayload => exact payload
  | wrappedKey => exact key
  | vector => exact vector
  | version =>
    rw [Package.Lacks, checkVersion_eq_ok_iff.mp version]
    decide

section Stages

-- what stands in the query is not looked into here
attribute [local irreducible] Request.bytes Request.version

variable {q : Request} {s : Stage}

/-- The stages behind the checks of the version and of empty fields. -/
def lateStages : List Stage := .vectorLength :: (Request.secretStages ++ [.text])

/-- The stages up to the checks of the version and of empty fields. -/
def Request.earlyStages (q : Request) : List Stage :=
  q.fieldStages ++ [.version, .present .cipherPayload, .present .wrappedKey, .present .vector]

theorem stages_eq_early_append (q : Request) : q.stages = q.earlyStages ++ lateStages := by
  simp [Request.stages, Request.structuralStages, Request.formStages, Request.earlyStages,
    lateStages]

theorem isComplete_iff : IsComplete q.query ↔ ∀ s ∈ q.earlyStages, s.Passes q := by
  simp only [IsComplete, deserialize_eq_judge, Staged.judge_eq_ok_iff, checkVersion_eq_ok_iff]
  simp only [Request.earlyStages, List.forall_mem_append, List.forall_mem_cons, Stage.Passes]
  constructor
  · rintro ⟨p, ⟨readable, rfl⟩, version, payload, key, vector⟩
    exact ⟨readable, version, payload, key, vector, fun _ none => absurd none List.not_mem_nil⟩
  · rintro ⟨readable, version, payload, key, vector, -⟩
    exact ⟨package q, ⟨readable, rfl⟩, version, payload, key, vector⟩

theorem isLate_invalidInput_iff {field reason : String} :
    IsLate (.invalidInput field reason) ↔
      field = "IV" ∧ (∃ length : Nat, reason = s!"expected {Cbc.blockSize} bytes, got {length}") ∨
        field = "plaintext" ∧ reason = "not valid UTF-8" := by
  constructor
  · rintro (⟨length⟩ | _ | _ | _)
    · exact .inl ⟨rfl, length, rfl⟩
    · exact .inr ⟨rfl, rfl⟩
  · rintro (⟨rfl, length, rfl⟩ | ⟨rfl, rfl⟩)
    · exact .vectorLength length
    · exact .text

theorem reason_vector_ne (q : Request) (length : Nat) :
    Stage.reason q .vector ≠ s!"expected {Cbc.blockSize} bytes, got {length}" := by
  simp only [Stage.reason, Stage.base64Reason]
  split <;> exact ne_of_head?_ne (by simp [toString])

/-- The error of a stage tells whether the stage is a late one. -/
theorem isLate_error_iff : IsLate (s.error q) ↔ s ∈ lateStages := by
  cases s with
  | readable f =>
    rw [Stage.error, isLate_invalidInput_iff]
    refine iff_of_false ?_ (by simp [lateStages, Request.secretStages])
    rintro (⟨vector, length, same⟩ | ⟨other, -⟩)
    · obtain rfl : f = .vector := Package.Field.name_injective vector
      exact reason_vector_ne q length same
    · cases f <;> simp [Field.name] at other
  | present f =>
    rw [Stage.error, isLate_invalidInput_iff]
    refine iff_of_false ?_ (by simp [lateStages, Request.secretStages])
    rintro (⟨-, length, same⟩ | ⟨-, same⟩)
    · exact ne_of_head?_ne (by simp [toString]) same
    · simp at same
  | version =>
    refine iff_of_false ?_ (by decide)
    intro late
    cases late
  | vectorLength => exact iff_of_true (.vectorLength _) (by decide)
  | unwrap | decrypt => exact iff_of_true .decryption (by decide)
  | unpack | signature => exact iff_of_true (.authentication _) (by decide)
  | text => exact iff_of_true .text (by decide)

theorem not_mem_lateStages (early : s ∈ q.earlyStages) : s ∉ lateStages := by
  simp only [Request.earlyStages, Request.fieldStages, List.mem_append, List.mem_map, List.mem_cons,
    List.not_mem_nil, or_false] at early
  rcases early with ⟨f, -, rfl⟩ | rfl | rfl | rfl | rfl <;> simp [lateStages, Request.secretStages]

/-- A query that opens has got as far as the keys. -/
theorem isComplete_of_openQuery {text : String}
    (h : openQuery q.query q.recipient q.sender = .ok text) : IsComplete q.query := by
  obtain ⟨passes, -⟩ := (openQuery_eq_ok_iff q).mp h
  rw [isComplete_iff]
  intro s early
  apply passes
  rw [stages_eq_early_append]
  exact List.mem_append_left _ early

/-- The error of an opening tells whether the query got as far as the keys. -/
theorem isLate_iff_isComplete {e : LaunchError}
    (h : openQuery q.query q.recipient q.sender = .error e) : IsLate e ↔ IsComplete q.query := by
  rw [openQuery_eq_judge, stages_eq_early_append, Request.judge, Staged.judge_append] at h
  rw [isComplete_iff]
  by_cases early : ∀ s ∈ q.earlyStages, s.Passes q
  · rw [Staged.judge_of_passes early] at h
    obtain ⟨passed, s, later, order, -, -, rfl⟩ := Staged.judge_eq_error_iff.mp h
    have late : s ∈ lateStages := by
      rw [order]
      exact List.mem_append_right _ List.mem_cons_self
    exact iff_of_true (isLate_error_iff.mpr late) early
  · -- the answer is that of an early stage, whatever the late ones would say
    obtain ⟨s, member, refused⟩ := Staged.exists_judge_eq_error (by simpa using early) _
    obtain rfl := Except.error.inj (h.symm.trans refused)
    exact iff_of_false (fun late => not_mem_lateStages member (isLate_error_iff.mp late)) early

end Stages

end PublicKeyLink

/-! ### Sealed queries -/

section Sealing

variable {ε : Type} [Environment ε] {env env' : ε} {q plaintext : String}

namespace SharedSecretLink

theorem ne_nil_of_sealWire {plaintext secret wire : Bytes}
    (h : (sealWire plaintext secret).runIn env = (.ok wire, env')) : wire ≠ [] := by
  simp only [sealWire, Randomized.runIn_bind_eq_ok_iff, Randomized.runIn_pure_eq_ok_iff] at h
  obtain ⟨-, -, -, outerNonce, -, -, -, -, -, -, -, -, signed, -, -, rfl, -⟩ := h
  apply List.append_ne_nil_of_left_ne_nil
  apply List.ne_nil_of_length_pos
  rw [outerNonce.length_toBytes]
  decide

/-- A query is detected as a link under a shared secret, and as nothing else. -/
def IsDetected (query : String) : Prop := isSealed query = true ∧ Package.isSealed query = false

theorem isDetected_of_sealQuery {secret : Bytes}
    (h : (sealQuery plaintext secret).runIn env = (.ok q, env')) : IsDetected q := by
  simp only [sealQuery, Randomized.runIn_bind_eq_ok_iff, Randomized.runIn_pure_eq_ok_iff] at h
  obtain ⟨wire, _, sealed, rfl, -⟩ := h
  constructor
  · have found : wireOfQuery (queryOfWire wire) = .ok wire := by
      rw [← Query.embed_none (queryOfWire wire)]
      exact wireOfQuery_embed (ne_nil_of_sealWire sealed) false none fun _ none =>
        absurd none List.not_mem_nil
    rw [← Bool.not_eq_false, ← wireOfQuery_eq_notSet_iff, found]
    exact nofun
  · rw [Package.isSealed, List.all_eq_false]
    refine ⟨.cipherPayload, by decide, ?_⟩
    rw [Query.hasValue_iff, queryOfWire_eq, Query.get?, Query.parse_encodePairs]
    simp [parameter, Package.Field.name]

theorem isDetected_of_sealQueryWithTextKey {secretText : String}
    (h : (sealQueryWithTextKey plaintext secretText).runIn env = (.ok q, env')) :
    IsDetected q := by
  simp only [sealQueryWithTextKey, Randomized.runIn_bind_eq_ok_iff] at h
  obtain ⟨secret, _, -, sealed⟩ := h
  exact isDetected_of_sealQuery sealed

end SharedSecretLink

namespace PublicKeyLink

theorem Steps.isComplete {seed : Octets 20} {sender : Rsa.PrivateKey} {recipient : Rsa.PublicKey}
    {p : Package} (steps : Steps seed plaintext sender recipient p) : IsComplete p.serialize := by
  have payload : p.cipherPayload ≠ [] := by
    obtain ⟨-, -, -, written, -⟩ :=
      Cbc.decrypt_eq_ok_iff.mp (Cbc.decrypt_eq_ok_iff_encrypt.mpr steps.encrypted)
    exact written
  have vector : p.vector ≠ [] := by
    apply List.ne_nil_of_length_pos
    rw [steps.vector]
    decide
  exact ⟨p, Package.deserialize_serialize p, checkVersion_eq_ok_iff.mpr steps.version, payload,
    Rsa.ne_nil_of_wrap steps.wrapped, vector⟩

/-- A query is detected as a link under key pairs, and as nothing else. -/
def IsDetected (query : String) : Prop :=
  Package.isSealed query = true ∧ SharedSecretLink.isSealed query = false

theorem isDetected_of_sealQuery {seed : Octets 20} {sender : Rsa.PrivateKey}
    {recipient : Rsa.PublicKey}
    (h : (sealQuery seed plaintext sender recipient).runIn env = (.ok q, env')) :
    IsDetected q := by
  obtain ⟨p, ⟨steps⟩, rfl⟩ := exists_steps h
  constructor
  · exact isSealed_of_isComplete steps.isComplete
  · rw [← Bool.not_eq_true, SharedSecretLink.isSealed, Query.hasValue_iff, Package.serialize,
      Query.get?, Query.parse_encodePairs]
    simp [List.lookup_cons, Package.Field.all, Package.Field.name, SharedSecretLink.parameter]

theorem isDetected_of_sealQuery_between {seed : Octets 20} {party system : PartyCertificate}
    (h : (PartyLink.sealQuery seed plaintext party system).runIn env = (.ok q, env')) :
    IsDetected q := by
  simp only [PartyLink.sealQuery, Randomized.runIn_bind_eq_ok_iff] at h
  obtain ⟨recipient, _, -, sender, _, -, sealed⟩ := h
  exact isDetected_of_sealQuery sealed

end PublicKeyLink

end Sealing

/-! ### Agreement -/

/-- **Detection agrees with the protocols.** Under every secret, clock and limit and with every
store, an opening says that nothing is set exactly if nothing is detected. Under all pairs of keys,
a query that opens has been detected, and so has one that is refused with an error from behind the
checks of the version and of empty fields; the error alone tells whether that is so. Whatever is
sealed is detected as a link of its kind and not of the other. -/
theorem detection_agrees :
    (∀ {σ : Type} [NonceStore σ] (maxAge : Duration) (now : Timestamp) (query : String)
        (secret : Bytes) (s : σ),
      (SharedSecretLink.openQuery maxAge now query secret s).1 = .error SharedSecretLink.notSet ↔
        SharedSecretLink.isSealed query = false) ∧
    (∀ query recipient sender,
      (∀ text, PublicKeyLink.openQuery query recipient sender = .ok text →
        Package.isSealed query = true) ∧
      ∀ e, PublicKeyLink.openQuery query recipient sender = .error e →
        (PublicKeyLink.IsLate e ↔ PublicKeyLink.IsComplete query) ∧
        (PublicKeyLink.IsLate e → Package.isSealed query = true)) ∧
    ∀ {ε : Type} [Environment ε] (env env' : ε) (plaintext q : String),
      (∀ secret, (SharedSecretLink.sealQuery plaintext secret).runIn env = (.ok q, env') →
        SharedSecretLink.IsDetected q) ∧
      (∀ secretText,
        (SharedSecretLink.sealQueryWithTextKey plaintext secretText).runIn env = (.ok q, env') →
        SharedSecretLink.IsDetected q) ∧
      (∀ seed sender recipient,
        (PublicKeyLink.sealQuery seed plaintext sender recipient).runIn env = (.ok q, env') →
        PublicKeyLink.IsDetected q) ∧
      ∀ seed party system,
        (PartyLink.sealQuery seed plaintext party system).runIn env = (.ok q, env') →
        PublicKeyLink.IsDetected q := by
  refine ⟨fun _ _ _ _ _ => SharedSecretLink.openQuery_eq_notSet_iff, ?_, ?_⟩
  · intro query recipient sender
    let q : PublicKeyLink.Request := ⟨query, recipient, sender⟩
    constructor
    · intro text opened
      have complete : PublicKeyLink.IsComplete q.query :=
        PublicKeyLink.isComplete_of_openQuery opened
      exact PublicKeyLink.isSealed_of_isComplete complete
    · intro e refused
      have complete : PublicKeyLink.IsLate e ↔ PublicKeyLink.IsComplete q.query :=
        PublicKeyLink.isLate_iff_isComplete refused
      exact ⟨complete, fun late => PublicKeyLink.isSealed_of_isComplete (complete.mp late)⟩
  · intro ε _ env env' plaintext q
    exact ⟨fun _ => SharedSecretLink.isDetected_of_sealQuery,
      fun _ => SharedSecretLink.isDetected_of_sealQueryWithTextKey,
      fun _ _ _ => PublicKeyLink.isDetected_of_sealQuery,
      fun _ _ _ => PublicKeyLink.isDetected_of_sealQuery_between⟩

/-- An empty field is not set, though a later one has a value. A package with a vector of one byte
is detected and refused for the vector. Texts that look like a link of the other kind are sealed, and
each query is detected as what it is. -/
theorem sealed_links_are_told_apart :
    (SharedSecretLink.openQuery OneTimeSignature.defaultMaxAge ⟨0, Nat.zero_le _⟩
      "sharedSecretEncryptedUrlQuery=&sharedSecretEncryptedUrlQuery=AQ" [7]
      IndexedStore.empty).1 = .error SharedSecretLink.notSet ∧
    PublicKeyLink.openQuery "V=%2B1&IV=AQ%3D%3D&SEUS=+AQ%3D%3D&ESP=AQ%3D%3D" Rsa.trialKey2
      Rsa.trialKey1.publicKey = .error (.invalidInput "IV" "expected 16 bytes, got 1") ∧
    PublicKeyLink.IsComplete "V=%2B1&IV=AQ%3D%3D&SEUS=+AQ%3D%3D&ESP=AQ%3D%3D" ∧
    Package.isSealed "V=%2B1&IV=AQ%3D%3D&SEUS=+AQ%3D%3D&ESP=AQ%3D%3D" = true ∧
    (∃ q env', (SharedSecretLink.sealQuery "SEUS=AQ&ESP=AQ&IV=AQ&V=1" [7]).runIn
        (ScriptedEnvironment.atInstant Instant.epoch) = (.ok q, env') ∧
      SharedSecretLink.IsDetected q) ∧
    ∃ q env', (PublicKeyLink.sealQuery (Octets.zero 20) "sharedSecretEncryptedUrlQuery=AQ"
        Rsa.trialKey1 Rsa.trialKey2.publicKey).runIn
        (ScriptedEnvironment.atInstant Instant.epoch) = (.ok q, env') ∧
      PublicKeyLink.openQuery q Rsa.trialKey2 Rsa.trialKey1.publicKey =
        .ok "sharedSecretEncryptedUrlQuery=AQ" ∧
      PublicKeyLink.IsDetected q := by
  obtain ⟨notSet, opening, sealing⟩ := detection_agrees
  have unset := (notSet OneTimeSignature.defaultMaxAge ⟨0, Nat.zero_le _⟩
    "sharedSecretEncryptedUrlQuery=&sharedSecretEncryptedUrlQuery=AQ" [7] IndexedStore.empty).mpr
    (by decide +kernel)
  have refused : PublicKeyLink.openQuery "V=%2B1&IV=AQ%3D%3D&SEUS=+AQ%3D%3D&ESP=AQ%3D%3D"
      Rsa.trialKey2 Rsa.trialKey1.publicKey =
        .error (.invalidInput "IV" "expected 16 bytes, got 1") := by
    decide +kernel
  have late : PublicKeyLink.IsLate (.invalidInput "IV" "expected 16 bytes, got 1") :=
    .vectorLength 1
  obtain ⟨complete, detected⟩ := (opening _ _ _).2 _ refused
  refine ⟨unset, refused, complete.mp late, detected late, ?_, ?_⟩
  · have fits : (Text.utf8 "SEUS=AQ&ESP=AQ&IV=AQ&V=1").length ≤ Gcm.maxPlaintextLength := by decide
    obtain ⟨envelope, encrypted, -⟩ := ModernEnvelope.exists_encrypt
      (Octets.length_toBytes (SharedSecretLink.epochDraws.keys [7]).cipherKey) fits
      SharedSecretLink.epochDraws.nonce
    have done := SharedSecretLink.runIn_sealQuery SharedSecretLink.epochDraws
      (List.cons_ne_nil 7 []) encrypted
    exact ⟨_, _, done, (sealing _ _ _ _).1 _ done⟩
  · obtain ⟨q, env', done⟩ :=
      PublicKeyLink.exists_sealQuery_trial "sharedSecretEncryptedUrlQuery=AQ"
    obtain ⟨p, ⟨steps⟩, rfl⟩ := PublicKeyLink.exists_steps done
    have opened := PublicKeyLink.openQuery_of_steps steps
      (Rsa.PrivateKey.signsVerifiably_of_isConsistent Rsa.isGenuine_trialKey1.consistent)
      Rsa.isGenuine_trialKey2.unwraps
    exact ⟨_, _, done, opened, (sealing _ _ _ _).2.2.1 _ _ _ done⟩

end SealedLink
