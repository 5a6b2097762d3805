import SealedLink.Proofs.SharedSecretLink.RoundTrip
import SealedLink.Proofs.Text.Base64.Canonical
import SealedLink.Proofs.Text.Blank

/-!
# Keys given as text

A secret may be given as base64 text, with blanks at its ends. A text that stands for a secret is
used like this secret, also if it is the empty one: what is answered and what is left of the
environment and of the store is the same. Any other text is refused as a key before anything else is
looked at, so nothing is drawn and no nonce is recorded.

## Main definitions

* `SharedSecretLink.Party` — who seals and opens links
* `SharedSecretLink.Task` — a text to be sealed, or a query to be opened
* `Task.perform`, `Task.performWithTextKey` — the two ways of giving the key

## Main results

* `SharedSecretLink.decodeKey_of_text` — the texts of a secret
* `SharedSecretLink.exists_decodeKey_error` — the texts of no secret
* `SharedSecretLink.text_key_is_used_like_secret` — what is done with a key given as text
-/

namespace SealedLink.SharedSecretLink

/-! ### Texts of a secret -/

/-- The text of a secret may have blanks at its ends. -/
theorem decodeKey_of_text {v w : String} (before : Text.AllBlank v) (secret : Bytes)
    (after : Text.AllBlank w) : decodeKey (v ++ Base64.encodeText secret ++ w) = .ok secret := by
  rw [decodeKey, Text.trimBlank_append before _ after, Base64.trimBlank_encodeText,
    Base64.decodeText_encodeText]

/-- A text that is not canonical between its blanks stands for no secret. -/
theorem exists_decodeKey_error {text : String}
    (h : ¬ Base64.IsCanonical (Text.trimBlank text)) :
    ∃ fault : Base64.Fault,
      decodeKey text = .error (.invalidInput "key" s!"invalid base64: {fault.message}") := by
  rw [← Base64.exists_decodeText_iff] at h
  unfold decodeKey
  cases read : Base64.decodeText (Text.trimBlank text) with
  | ok secret => exact absurd ⟨secret, read⟩ h
  | error fault => exact ⟨fault, rfl⟩

/-- The texts of secrets are those that are canonical once they are trimmed. -/
theorem isCanonical_trimBlank_iff {text : String} :
    Base64.IsCanonical (Text.trimBlank text) ↔ ∃ secret v w, Text.AllBlank v ∧ Text.AllBlank w ∧
      text = v ++ Base64.encodeText secret ++ w := by
  rw [Base64.isCanonical_iff]
  constructor
  · rintro ⟨secret, written⟩
    obtain ⟨v, w, before, after, whole⟩ := Text.exists_eq_append_trimBlank text
    exact ⟨secret, v, w, before, after, written ▸ whole⟩
  · rintro ⟨secret, v, w, before, after, rfl⟩
    exact ⟨secret, by rw [Text.trimBlank_append before _ after, Base64.trimBlank_encodeText]⟩

/-! ### Sealing and opening -/

/-- Who seals and opens links. -/
structure Party (ε σ : Type) where
  /-- The clock and the random source. -/
  environment : ε
  /-- The nonces of the links that have been opened. -/
  store : σ
  /-- The age up to which a link is opened. -/
  maxAge : Duration

/-- What a party does with a key. -/
inductive Task where
  /-- A text to be sealed. -/
  | sealing (plaintext : String)
  /-- A query to be opened. -/
  | opening (query : String)

namespace Task

variable {ε σ : Type} [Environment ε] [NonceStore σ]

/-- The answer to a task under a secret, and the party after it. -/
def perform (task : Task) (secret : Bytes) (p : Party ε σ) :
    Except LaunchError String × Party ε σ :=
  match task with
  | sealing plaintext =>
    let (answer, environment) := (sealQuery plaintext secret).runIn p.environment
    (answer, { p with environment })
  | opening query =>
    let now := Environment.timestamp p.environment
    let (answer, store) := openQuery p.maxAge now query secret p.store
    (answer, { p with store })

/-- The answer to a task under a secret given as base64 text, and the party after it. -/
def performWithTextKey (task : Task) (secretText : String) (p : Party ε σ) :
    Except LaunchError String × Party ε σ :=
  match task with
  | sealing plaintext =>
    let (answer, environment) := (sealQueryWithTextKey plaintext secretText).runIn p.environment
    (answer, { p with environment })
  | opening query =>
    let now := Environment.timestamp p.environment
    let (answer, store) := openQueryWithTextKey p.maxAge now query secretText p.store
    (answer, { p with store })

variable {secretText : String} (task : Task) (p : Party ε σ)

theorem performWithTextKey_of_ok {secret : Bytes} (h : decodeKey secretText = .ok secret) :
    task.performWithTextKey secretText p = task.perform secret p := by
  cases task with
  | sealing plaintext =>
    rw [performWithTextKey, sealQueryWithTextKey,
      Randomized.runIn_bind_of_ok (Randomized.runIn_ofExcept_of_ok h _)]
    rfl
  | opening query =>
    simp only [performWithTextKey, openQueryWithTextKey, h]
    rfl

/-- A key that cannot be read is refused, and the party stays as it was. -/
theorem performWithTextKey_of_error {e : LaunchError} (h : decodeKey secretText = .error e) :
    task.performWithTextKey secretText p = (.error e, p) := by
  cases task with
  | sealing plaintext =>
    rw [performWithTextKey, sealQueryWithTextKey,
      Randomized.runIn_bind_of_error (Randomized.runIn_ofExcept_of_error h _)]
  | opening query => simp only [performWithTextKey, openQueryWithTextKey, h]

end Task

/-- **A key given as text is used like the secret it stands for.** Every task gets the same answer
under any text of a secret as under the secret itself, and leaves the party in the same state. The
texts of secrets are those that are canonical base64 between blanks at their ends. Every other text
is refused as a key, whatever the task, and the party stays as it was. -/
theorem text_key_is_used_like_secret {ε σ : Type} [Environment ε] [NonceStore σ] :
    (∀ (task : Task) (secret : Bytes) (p : Party ε σ) (v w : String), Text.AllBlank v →
      Text.AllBlank w →
        task.performWithTextKey (v ++ Base64.encodeText secret ++ w) p = task.perform secret p) ∧
    (∀ text, Base64.IsCanonical (Text.trimBlank text) ↔ ∃ secret v w, Text.AllBlank v ∧
      Text.AllBlank w ∧ text = v ++ Base64.encodeText secret ++ w) ∧
    ∀ text, ¬ Base64.IsCanonical (Text.trimBlank text) → ∃ reason, ∀ (task : Task) (p : Party ε σ),
      task.performWithTextKey text p = (.error (.invalidInput "key" reason), p) := by
  refine ⟨?_, fun _ => isCanonical_trimBlank_iff, ?_⟩
  · intro task secret p v w before after
    exact task.performWithTextKey_of_ok p (decodeKey_of_text before secret after)
  · intro text foreign
    obtain ⟨fault, refused⟩ := exists_decodeKey_error foreign
    exact ⟨_, fun task p => task.performWithTextKey_of_error p refused⟩

/-- A text of blanks stands for the empty secret. A sealing refuses this secret, but in an opening
the missing field of the query is noticed first. A text of a single byte between blanks seals like
this byte, with the requests that it makes. A text without its last padding character stands for no
secret, and this is noticed before the query is looked at. -/
theorem blank_text_is_empty_secret :
    let p : Party ScriptedEnvironment (Fifo NonceRecord) :=
      ⟨.atInstant .epoch, Fifo.empty, OneTimeSignature.defaultMaxAge⟩
    (Task.sealing "a=b").performWithTextKey " \u3000" p =
        (.error (.invalidInput "key" "must not be empty"), p) ∧
      (Task.opening "").performWithTextKey " \u3000" p =
        (.error (.invalidInput parameter "value either does not exist or is not set"), p) ∧
      (∃ query, (Task.sealing "a=b").performWithTextKey "\tBw== " p =
        (.ok query, { p with environment := epochDraws.left })) ∧
      ∃ reason, (Task.opening "").performWithTextKey "Bw=" p =
        (.error (.invalidInput "key" reason), p) := by
  intro p
  obtain ⟨used, -, refused⟩ := text_key_is_used_like_secret (ε := ScriptedEnvironment)
    (σ := Fifo NonceRecord)
  have empty : " \u3000" = " " ++ Base64.encodeText [] ++ "\u3000" := by decide
  have seven : "\tBw== " = "\t" ++ Base64.encodeText [7] ++ " " := by decide
  have missing : wireOfQuery "" =
      .error (.invalidInput parameter "value either does not exist or is not set") := rfl
  have foreign : ¬ Base64.IsCanonical (Text.trimBlank "Bw=") := by
    have unread : Base64.decodeText (Text.trimBlank "Bw=") = .error .invalidPadding := by decide
    rw [← Base64.exists_decodeText_iff, unread]
    simp
  rw [empty, used _ [] p " " "\u3000" (by decide) (by decide),
    used _ [] p " " "\u3000" (by decide) (by decide), seven,
    used _ [7] p "\t" " " (by decide) (by decide)]
  refine ⟨rfl, ?_, ?_, ?_⟩
  · simp only [Task.perform, openQuery, missing]
  · obtain ⟨envelope, encrypted, -⟩ := ModernEnvelope.exists_encrypt
      (Octets.length_toBytes (epochDraws.keys [7]).cipherKey)
      (show (Text.utf8 "a=b").length ≤ Gcm.maxPlaintextLength by decide) epochDraws.nonce
    have done := runIn_sealQuery epochDraws (List.cons_ne_nil 7 []) encrypted
    exact ⟨_, by rw [Task.perform, done]⟩
  · obtain ⟨reason, answered⟩ := refused "Bw=" foreign
    exact ⟨reason, answered _ p⟩

end SealedLink.SharedSecretLink
