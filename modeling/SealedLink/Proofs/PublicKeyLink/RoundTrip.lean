import SealedLink.PartyLink
import SealedLink.Proofs.Certificate.Party
import SealedLink.Proofs.Package
import SealedLink.Proofs.PublicKeyLink.Decryption
import SealedLink.Proofs.Rsa.Signature

/-!
# A link under key pairs opens to its text

Opening undoes the steps of sealing in reverse order: the query gives the package back, the
recipient's key the session key, the session key the packed bytes, and these the payload with a
signature that verifies. Nothing of this uses up the link.

## Main definitions

* `PublicKeyLink.Steps` — the steps from a text to its package

## Main results

* `PublicKeyLink.exists_steps` — a sealed query is a package that these steps lead to
* `PublicKeyLink.openQuery_of_steps` — such a package opens
* `PublicKeyLink.sealed_query_opens` — the round trip, for keys and for parties with certificates
-/

namespace SealedLink

namespace PublicKeyLink

/-! ### Sealing -/

/-- The steps from a text to its package. -/
structure Steps (seed : Octets 20) (plaintext : String) (sender : Rsa.PrivateKey)
    (recipient : Rsa.PublicKey) (p : Package) where
  /-- The text with its signature. -/
  message : SignedPayload
  /-- The two as one byte string. -/
  packed : Bytes
  /-- The key under which it is encrypted. -/
  sessionKey : Bytes
  signed : SignedPayload.sign (Text.utf8 plaintext) sender = .ok message
  written : message.pack = .ok packed
  encrypted : Cbc.encrypt sessionKey p.vector packed = .ok p.cipherPayload
  wrapped : Rsa.wrap recipient seed sessionKey = .ok p.wrappedKey
  vector : p.vector.length = Cbc.blockSize
  version : p.version = protocolVersion

variable {ε : Type} [Environment ε] {env env' : ε} {seed : Octets 20} {plaintext q : String}
variable {sender recipient : Rsa.PrivateKey} {recipientPublic : Rsa.PublicKey} {p : Package}

/-- A sealed query is a package that the steps lead to, whatever was drawn for it. -/
theorem exists_steps
    (h : (sealQuery seed plaintext sender recipientPublic).runIn env = (.ok q, env')) :
    ∃ p, Nonempty (Steps seed plaintext sender recipientPublic p) ∧ p.serialize = q := by
  simp only [sealQuery, Randomized.runIn_bind_eq_ok_iff, Randomized.runIn_ofExcept_eq_ok_iff,
    Randomized.runIn_pure_eq_ok_iff] at h
  obtain ⟨message, _, ⟨signed, -⟩, p, _, encryption, rfl, -⟩ := h
  obtain ⟨packed, _, sessionKey, vector, written, -, -, encrypted, wrapped, drawn, version⟩ :=
    runIn_encrypt_eq_ok_iff.mp encryption
  rw [drawn] at encrypted
  have size : p.vector.length = Cbc.blockSize := by
    rw [← drawn]
    exact vector.length_eq
  exact ⟨p, ⟨⟨message, packed, sessionKey.toBytes, signed, written, encrypted, wrapped, size,
    version⟩⟩, rfl⟩

/-- Sealing succeeds if both requests do and the keys have room: the sender's for the digest, within
the limit of a package, and the recipient's for the session key. -/
theorem exists_sealQuery {mid : ε} {sessionKey : Octets sessionKeySize}
    {vector : Octets Cbc.blockSize} (genuine : sender.IsGenuine) (room : 62 ≤ sender.publicKey.size)
    (limit : sender.publicKey.size ≤ 1024) (room' : 74 ≤ recipientPublic.size)
    (first : Environment.draw sessionKeySize env = (.ok sessionKey, mid))
    (second : Environment.draw Cbc.blockSize mid = (.ok vector, env')) (seed : Octets 20)
    (plaintext : String) :
    ∃ q, (sealQuery seed plaintext sender recipientPublic).runIn env = (.ok q, env') := by
  obtain ⟨signature, signed⟩ := genuine.exists_sign room (Text.utf8 plaintext)
  obtain ⟨message, done⟩ : ∃ m : SignedPayload, m = ⟨Text.utf8 plaintext, signature⟩ := ⟨_, rfl⟩
  have signed' : SignedPayload.sign (Text.utf8 plaintext) sender = .ok message := by
    rw [SignedPayload.sign, signed, done]
  have short : message.signature.length ≤ 1024 := by
    rw [done, Rsa.length_of_sign signed]
    exact limit
  obtain ⟨p, encryption⟩ := exists_encrypt short room' first second seed
  refine ⟨p.serialize, ?_⟩
  simp only [sealQuery, Randomized.runIn_bind_eq_ok_iff, Randomized.runIn_ofExcept_eq_ok_iff,
    Randomized.runIn_pure_eq_ok_iff]
  exact ⟨message, env, ⟨signed', rfl⟩, p, env', encryption, rfl, rfl⟩

/-! ### Opening -/

theorem sign_eq_ok_iff {payload : Bytes} {message : SignedPayload} :
    SignedPayload.sign payload sender = .ok message ↔
      message.payload = payload ∧ Rsa.sign sender payload = .ok message.signature := by
  unfold SignedPayload.sign
  cases message with
  | mk _ _ => cases Rsa.sign sender payload <;> simp [eq_comm]

theorem Steps.decrypt (steps : Steps seed plaintext sender recipient.publicKey p)
    (unwraps : recipient.Unwraps) : PublicKeyLink.decrypt p recipient = .ok steps.message :=
  decrypt_of_wrapped unwraps steps.wrapped steps.vector steps.written steps.encrypted

/-- The package of a text opens to the text. -/
theorem openQuery_of_steps (steps : Steps seed plaintext sender recipient.publicKey p)
    (signs : sender.SignsVerifiably) (unwraps : recipient.Unwraps) :
    openQuery p.serialize recipient sender.publicKey = .ok plaintext := by
  obtain ⟨payload, signed⟩ := sign_eq_ok_iff.mp steps.signed
  have version : checkVersion p = .ok () := by
    rw [checkVersion, if_pos steps.version]
  have verified : steps.message.verify sender.publicKey = .ok () := by
    rw [SignedPayload.verify, payload, if_pos (signs _ _ signed)]
  unfold openQuery
  simp only [Package.deserialize_serialize, version, steps.decrypt unwraps, verified, payload,
    Text.ofUtf8?_utf8, bind, Except.bind, pure, Except.pure]

end PublicKeyLink

/-! ### Parties with certificates -/

namespace PartyLink

variable {sender recipient : Rsa.PrivateKey} {party system : PartyCertificate}

/-- Between parties with matched keys a query is sealed with the sender's private key and the public
part of the recipient's. -/
theorem sealQuery_eq {ε : Type} [Environment ε] (seed : Octets 20) (plaintext : String)
    (matched : system.IsMatched) (own : party.privateKey = some sender)
    (other : system.privateKey = some recipient) :
    sealQuery (ε := ε) seed plaintext party system =
      PublicKeyLink.sealQuery seed plaintext sender recipient.publicKey := by
  rw [sealQuery, PartyCertificate.requirePublicKey_of_eq_some (matched recipient other),
    PartyCertificate.requirePrivateKey_of_eq_some own]
  rfl

theorem openQuery_eq (q : String) (matched : party.IsMatched)
    (own : party.privateKey = some sender) (other : system.privateKey = some recipient) :
    openQuery q system party = PublicKeyLink.openQuery q recipient sender.publicKey := by
  rw [openQuery, PartyCertificate.requirePrivateKey_of_eq_some other,
    PartyCertificate.requirePublicKey_of_eq_some (matched sender own)]
  rfl

end PartyLink

namespace PublicKeyLink

variable {ε : Type} [Environment ε] {env env' : ε} {seed : Octets 20} {plaintext q : String}
variable {sender recipient : Rsa.PrivateKey}

/-- **The round trip.** If the sender's signatures verify and the recipient's key unwraps what is
wrapped for it, every query that is sealed opens to its text: whatever was drawn for the session key
and the initial vector, and whatever the seed of the wrapping. An opening has no effect, so the query
opens as often as it is tried. The same holds between parties whose certificates carry these keys. -/
theorem sealed_query_opens (signs : sender.SignsVerifiably) (unwraps : recipient.Unwraps) :
    ((sealQuery seed plaintext sender recipient.publicKey).runIn env = (.ok q, env') →
      openQuery q recipient sender.publicKey = .ok plaintext) ∧
    ∀ party system : PartyCertificate, party.IsMatched → system.IsMatched →
      party.privateKey = some sender → system.privateKey = some recipient →
      (PartyLink.sealQuery seed plaintext party system).runIn env = (.ok q, env') →
      PartyLink.openQuery q system party = .ok plaintext := by
  have opens : (sealQuery seed plaintext sender recipient.publicKey).runIn env = (.ok q, env') →
      openQuery q recipient sender.publicKey = .ok plaintext := by
    intro done
    obtain ⟨p, ⟨steps⟩, rfl⟩ := exists_steps done
    exact openQuery_of_steps steps signs unwraps
  refine ⟨opens, ?_⟩
  intro party system matched matched' own other done
  rw [PartyLink.sealQuery_eq seed plaintext matched' own other] at done
  rw [PartyLink.openQuery_eq q matched own other]
  exact opens done

/-- A party that holds a pair of keys. -/
def keyHolder (subject : String) (key : Rsa.PrivateKey) : PartyCertificate :=
  ⟨subject, some key.publicKey, some key⟩

theorem isMatched_keyHolder (subject : String) (key : Rsa.PrivateKey) :
    (keyHolder subject key).IsMatched := by
  intro key' attached
  cases attached
  rfl

/-- Every text is sealed with one trial key for the other. -/
theorem exists_sealQuery_trial (plaintext : String) :
    ∃ q env', (sealQuery (Octets.zero 20) plaintext Rsa.trialKey1 Rsa.trialKey2.publicKey).runIn
      (ScriptedEnvironment.atInstant Instant.epoch) = (.ok q, env') := by
  have room : 62 ≤ Rsa.trialKey1.publicKey.size := by simp [Rsa.size_trialKey1]
  have limit : Rsa.trialKey1.publicKey.size ≤ 1024 := by simp [Rsa.size_trialKey1]
  have room' : 74 ≤ Rsa.trialKey2.publicKey.size := by simp [Rsa.size_trialKey2]
  have drawn :
      Environment.draw sessionKeySize (ScriptedEnvironment.atInstant Instant.epoch) = _ := rfl
  obtain ⟨q, done⟩ := exists_sealQuery Rsa.isGenuine_trialKey1 room limit room' drawn rfl
    (Octets.zero 20) plaintext
  exact ⟨q, _, done⟩

/-- A text that is not all ASCII is sealed with one trial key for the other, and opens with both
keys and between parties that hold them. -/
theorem trial_query_opens :
    Rsa.trialKey1.SignsVerifiably ∧ Rsa.trialKey2.Unwraps ∧
      ∃ q env', (sealQuery (Octets.zero 20) "id=1&x=é" Rsa.trialKey1 Rsa.trialKey2.publicKey).runIn
          (ScriptedEnvironment.atInstant Instant.epoch) = (.ok q, env') ∧
        openQuery q Rsa.trialKey2 Rsa.trialKey1.publicKey = .ok "id=1&x=é" ∧
        PartyLink.openQuery q (keyHolder "CN=B" Rsa.trialKey2) (keyHolder "CN=A" Rsa.trialKey1) =
          .ok "id=1&x=é" := by
  have signs := Rsa.PrivateKey.signsVerifiably_of_isConsistent Rsa.isGenuine_trialKey1.consistent
  have unwraps := Rsa.isGenuine_trialKey2.unwraps
  obtain ⟨q, _, done⟩ := exists_sealQuery_trial "id=1&x=é"
  refine ⟨signs, unwraps, q, _, done, ?_, ?_⟩
  · exact (sealed_query_opens signs unwraps).1 done
  · have matched := isMatched_keyHolder "CN=A" Rsa.trialKey1
    have matched' := isMatched_keyHolder "CN=B" Rsa.trialKey2
    have own : (keyHolder "CN=A" Rsa.trialKey1).privateKey = some Rsa.trialKey1 := rfl
    rw [← PartyLink.sealQuery_eq _ _ matched' own rfl] at done
    exact (sealed_query_opens signs unwraps).2 _ _ matched matched' rfl rfl done

end PublicKeyLink

end SealedLink
