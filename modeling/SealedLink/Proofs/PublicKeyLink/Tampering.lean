import SealedLink.Proofs.PublicKeyLink.RoundTrip

/-!
# An exchanged initial vector is noticed

Nothing protects the initial vector of a package, and under another one the first block of the
decrypted bytes is another one too: the length of the signature and its first twelve bytes, for every
signature is longer than that. The padding stays as it is, so decryption succeeds. A length that does
not fit is refused when the bytes are taken apart. One that fits but is not that of the key is refused
with the signature. And if the length is unchanged, the payload is the old one under a signature that
is not the old one, and it has no second.

## Main results

* `PublicKeyLink.Steps.decrypt_of_vector` — under another vector there is no message, or one whose
  signature is not verified
* `PublicKeyLink.tampered_vector_is_refused` — the answer to a package with another vector
-/

namespace SealedLink.PublicKeyLink

variable {seed : Octets 20} {plaintext : String} {p : Package} {vector : Bytes}
variable {sender recipient : Rsa.PrivateKey} {recipientPublic : Rsa.PublicKey}

/-- The answers to a package that is not what was sealed. -/
def tamperReasons : List String := ["malformed signature length prefix", "RSA signature mismatch"]

namespace Steps

theorem length_signature (steps : Steps seed plaintext sender recipientPublic p) :
    steps.message.signature.length = sender.publicKey.size ∧
      62 ≤ steps.message.signature.length := by
  obtain ⟨-, signed⟩ := sign_eq_ok_iff.mp steps.signed
  have length := Rsa.length_of_sign signed
  rw [length]
  exact ⟨rfl, Rsa.le_size_of_sign signed⟩

/-- Under another initial vector the payload decrypts to other bytes, which differ in front of the
payload only. -/
theorem exists_changed (steps : Steps seed plaintext sender recipientPublic p)
    (size : vector.length = 16) (other : vector ≠ p.vector) :
    ∃ changed, Cbc.decrypt steps.sessionKey vector p.cipherPayload = .ok changed ∧
      changed.drop 16 = steps.packed.drop 16 ∧ changed ≠ steps.packed := by
  have long : 16 ≤ steps.packed.length := by
    have written := SignedPayload.length_of_pack steps.written
    obtain ⟨-, room⟩ := steps.length_signature
    omega
  have first : (steps.packed.take 16).length = 16 := List.length_take_of_le long
  have length := steps.vector
  have middle : (Bytes.xor (steps.packed.take 16) p.vector).length = 16 := by
    rw [Bytes.length_xor (first.trans length.symm).le, first]
  have front : (Bytes.xor (Bytes.xor (steps.packed.take 16) p.vector) vector).length = 16 := by
    rw [Bytes.length_xor (middle.trans size.symm).le, middle]
  refine ⟨_, Cbc.decrypt_of_vector steps.encrypted size long, List.drop_left' front, ?_⟩
  intro same
  -- the first block would be unchanged, and then the two vectors cancel each other
  have unchanged : Bytes.xor (Bytes.xor (steps.packed.take 16) p.vector) vector =
      steps.packed.take 16 := by
    rw [← List.take_left' front, same]
  exact other (Bytes.eq_of_xor_xor_eq (length.trans first.symm) (size.trans first.symm)
    unchanged).symm

/-- Under another initial vector there is no message, or one whose signature is not verified. -/
theorem decrypt_of_vector (steps : Steps seed plaintext sender recipient.publicKey p)
    (signs : sender.SignsVerifiably) (one : sender.publicKey.VerifiesOne)
    (unwraps : recipient.Unwraps) (size : vector.length = 16) (other : vector ≠ p.vector) :
    PublicKeyLink.decrypt { p with vector } recipient =
        .error (.authenticationFailed "malformed signature length prefix") ∨
      ∃ m, PublicKeyLink.decrypt { p with vector } recipient = .ok m ∧
        ¬ Rsa.verify sender.publicKey m.payload m.signature = true := by
  obtain ⟨changed, decrypted, behind, different⟩ := steps.exists_changed size other
  obtain ⟨-, -, -, payload, -⟩ := Cbc.decrypt_eq_ok_iff.mp decrypted
  have formed : checkForm { p with vector } = .ok () :=
    checkForm_eq_ok_iff.mpr ⟨payload, Rsa.ne_nil_of_wrap steps.wrapped, size⟩
  unfold PublicKeyLink.decrypt
  simp only [formed, unwraps _ _ _ steps.wrapped, decrypted]
  cases unpacked : SignedPayload.unpack changed with
  | error fault => exact .inl rfl
  | ok m =>
    refine .inr ⟨m, rfl, ?_⟩
    intro verified
    obtain ⟨length, room⟩ := steps.length_signature
    obtain ⟨text, signed⟩ := sign_eq_ok_iff.mp steps.signed
    -- a verified signature has the length of the key, so the payload begins where it did before
    obtain ⟨samePayload, otherSignature⟩ := SignedPayload.signature_ne_of_front steps.written
      (SignedPayload.pack_of_unpack unpacked) (by omega) behind different
      ((Rsa.length_of_verify verified).trans length.symm)
    rw [samePayload, text] at verified
    exact otherSignature (one _ _ _ verified (signs _ _ signed))

end Steps

/-- **An exchanged initial vector is noticed.** Let the sender's signatures verify, no message have
two of them, and the recipient unwrap what is wrapped for it. Then, whatever a query was sealed with,
any text that carries its package with another initial vector is answered by an authentication
failure. -/
theorem tampered_vector_is_refused {ε : Type} [Environment ε] {env env' : ε} {q : String}
    (signs : sender.SignsVerifiably) (one : sender.publicKey.VerifiesOne)
    (unwraps : recipient.Unwraps)
    (sealed : (sealQuery seed plaintext sender recipient.publicKey).runIn env = (.ok q, env')) :
    ∃ p, Package.deserialize q = .ok p ∧ p.vector.length = 16 ∧
      ∀ vector, vector.length = 16 → vector ≠ p.vector →
        ∀ q', Package.deserialize q' = .ok { p with vector } →
          ∃ reason ∈ tamperReasons,
            openQuery q' recipient sender.publicKey = .error (.authenticationFailed reason) := by
  obtain ⟨p, ⟨steps⟩, rfl⟩ := exists_steps sealed
  refine ⟨p, Package.deserialize_serialize p, steps.vector, ?_⟩
  intro vector size other q' read
  have version : checkVersion { p with vector } = .ok () := if_pos steps.version
  -- the length of the signature does not fit, or the signature is not verified
  rcases steps.decrypt_of_vector signs one unwraps size other with refused | ⟨m, found, fails⟩
  · refine ⟨_, List.mem_cons_self, ?_⟩
    simp only [openQuery, read, version, refused, bind, Except.bind]
  · have mismatch : m.verify sender.publicKey =
        .error (.authenticationFailed "RSA signature mismatch") := if_neg fails
    refine ⟨_, List.mem_cons_of_mem _ List.mem_cons_self, ?_⟩
    simp only [openQuery, read, version, found, mismatch, bind, Except.bind]

/-- A text is sealed with one trial key for the other. One of two constant vectors is not the one
that was drawn, and the package that carries it is refused. -/
theorem trial_tampering_is_refused :
    Rsa.trialKey1.SignsVerifiably ∧ Rsa.trialKey1.publicKey.VerifiesOne ∧
      Rsa.trialKey2.Unwraps ∧
      ∃ q env' p, (sealQuery (Octets.zero 20) "id=1&x=é" Rsa.trialKey1
          Rsa.trialKey2.publicKey).runIn (ScriptedEnvironment.atInstant Instant.epoch) =
            (.ok q, env') ∧
        Package.deserialize q = .ok p ∧
        ∃ vector ∈ [List.replicate 16 0x00, List.replicate 16 0xff],
          vector.length = 16 ∧ vector ≠ p.vector ∧
          Package.deserialize { p with vector }.serialize = .ok { p with vector } ∧
          ∃ reason ∈ tamperReasons,
            openQuery { p with vector }.serialize Rsa.trialKey2 Rsa.trialKey1.publicKey =
              .error (.authenticationFailed reason) := by
  have genuine := Rsa.isGenuine_trialKey1
  have signs := Rsa.PrivateKey.signsVerifiably_of_isConsistent genuine.consistent
  have unwraps := Rsa.isGenuine_trialKey2.unwraps
  obtain ⟨q, _, done⟩ := exists_sealQuery_trial "id=1&x=é"
  obtain ⟨p, read, -, refused⟩ := tampered_vector_is_refused signs genuine.verifiesOne unwraps done
  obtain ⟨vector, listed, size, other⟩ :
      ∃ vector ∈ [List.replicate 16 0x00, List.replicate 16 0xff],
        vector.length = 16 ∧ vector ≠ p.vector := by
    by_cases zero : p.vector = List.replicate 16 0x00
    · refine ⟨List.replicate 16 0xff, by simp, rfl, ?_⟩
      rw [zero]
      decide
    · exact ⟨_, List.mem_cons_self, rfl, Ne.symm zero⟩
  have written := Package.deserialize_serialize { p with vector }
  exact ⟨signs, genuine.verifiesOne, unwraps, q, _, p, done, read, vector, listed, size, other,
    written, refused vector size other _ written⟩

end SealedLink.PublicKeyLink
