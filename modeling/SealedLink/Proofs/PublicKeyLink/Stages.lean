import SealedLink.Proofs.Cipher.Cbc
import SealedLink.Proofs.Package
import SealedLink.Proofs.SignedPayload
import SealedLink.Proofs.Staged
import SealedLink.PublicKeyLink

/-!
# The stages of an opening

A query under key pairs is opened in stages, and the first that fails gives the error. The stages
are stated here for what stands in the query and for what follows from it, all of which is defined
whether or not the stages before have passed. From the unwrapping of the session key to the check of
the signature there are three errors only, and no part of them comes from the query.

## Main definitions

* `PublicKeyLink.Request` — all that decides about a query, and what follows from it
* `PublicKeyLink.Stage`, `Request.stages` — the stages and their order
* `Stage.Passes`, `Stage.error` — what a stage asks for, and the error if it fails
* `Request.Opens`, `Request.FailsAt` — all stages pass, or one is the first to fail
* `Request.FailsClosed` — what gets out behind the structural stages

## Main results

* `PublicKeyLink.openQuery_eq_judge` — an opening goes through the stages
* `PublicKeyLink.openQuery_decides` — the exact answer to every query, without an oracle
-/

namespace SealedLink.PublicKeyLink

open Package (Field firstFields)

/-- All that decides about a query. -/
structure Request where
  /-- The query. -/
  query : String
  /-- The key of the recipient. -/
  recipient : Rsa.PrivateKey
  /-- The key of the sender. -/
  sender : Rsa.PublicKey

/-! ### What follows from a query -/

namespace Request

/-- The value of the first pair of a field, without blanks at its ends; nothing if there is none. -/
def text (q : Request) (field : Field) : String :=
  Text.trimBlank ((Query.get? q.query field.name).getD "")

/-- The bytes in the value of a field. -/
def bytes (q : Request) (field : Field) : Bytes :=
  match Base64.decodeText (q.text field) with
  | .ok bytes => bytes
  | .error _ => []

/-- The version in the query; nothing counts as zero. -/
def version (q : Request) : UInt16 := (Package.version? (q.text .version)).getD 0

/-- The session key for the recipient. -/
def sessionKey (q : Request) : Bytes := (Rsa.unwrap? q.recipient (q.bytes .wrappedKey)).getD []

/-- The decrypted blocks, with their padding. -/
def padded (q : Request) : Bytes :=
  match Aes.KeySchedule.ofKey? q.sessionKey with
  | some keys =>
    Block.bytes (Cbc.unchain keys.decrypt (Block.ofBytes (q.bytes .vector))
      (Block.list (q.bytes .cipherPayload)))
  | none => []

/-- The decrypted bytes. -/
def packed (q : Request) : Bytes := q.padded.take (q.padded.length - Padding.count q.padded)

/-- The length of the signature, according to the decrypted bytes. -/
def signatureLength (q : Request) : Nat := SignedPayload.declaredLength q.packed

/-- The signature. -/
def signature (q : Request) : Bytes := (q.packed.drop 4).take q.signatureLength

/-- The payload. -/
def payload (q : Request) : Bytes := q.packed.drop (4 + q.signatureLength)

end Request

/-! ### Stages -/

/-- The stages of an opening. -/
inductive Stage where
  /-- The value of a field can be read. -/
  | readable (field : Field)
  /-- The version is that of the protocol. -/
  | version
  /-- A field is not empty. -/
  | present (field : Field)
  /-- The initial vector has its length. -/
  | vectorLength
  /-- The session key is unwrapped. -/
  | unwrap
  /-- The payload is decrypted. -/
  | decrypt
  /-- The decrypted bytes are a signature and a payload. -/
  | unpack
  /-- The signature is that of the sender for the payload. -/
  | signature
  /-- The payload is a text. -/
  | text
  deriving DecidableEq

namespace Stage

/-- What a stage asks for. -/
def Passes (q : Request) : Stage → Prop
  | readable .version => q.text .version = "" ∨ (Package.version? (q.text .version)).isSome
  | readable f => (Base64.decodeText (q.text f)).isOk
  | version => q.version = 1
  | present f => q.bytes f ≠ []
  | vectorLength => (q.bytes .vector).length = 16
  | unwrap => (Rsa.unwrap? q.recipient (q.bytes .wrappedKey)).isSome
  | decrypt => (q.bytes .cipherPayload).length % 16 = 0 ∧
      (q.sessionKey.length = 16 ∨ q.sessionKey.length = 24 ∨ q.sessionKey.length = 32) ∧
      1 ≤ Padding.count q.padded ∧ Padding.count q.padded ≤ 16 ∧
      Padding.count q.padded ≤ q.padded.length ∧
      ∀ x ∈ q.padded.drop (q.padded.length - Padding.count q.padded),
        x.toNat = Padding.count q.padded
  | unpack => 4 ≤ q.packed.length ∧ q.signatureLength ≤ 1024 ∧
      4 + q.signatureLength ≤ q.packed.length
  | signature => Rsa.verify q.sender q.payload q.signature
  | text => (Text.ofUtf8? q.payload).isSome

instance (q : Request) (s : Stage) : Decidable (s.Passes q) :=
  match s with
  | readable .version => inferInstanceAs (Decidable (_ ∨ _))
  | readable .cipherPayload | readable .wrappedKey | readable .vector =>
    inferInstanceAs (Decidable (Except.isOk _ = true))
  | version => inferInstanceAs (Decidable (q.version = 1))
  | present f => inferInstanceAs (Decidable (q.bytes f ≠ []))
  | vectorLength => inferInstanceAs (Decidable ((q.bytes .vector).length = 16))
  | unwrap | signature | text => inferInstanceAs (Decidable (_ = true))
  | decrypt | unpack => inferInstanceAs (Decidable (_ ∧ _))

/-- Why the value of a field is not the base64 text of any bytes. -/
def base64Reason (q : Request) (f : Field) : String :=
  match Base64.decodeText (q.text f) with
  | .ok _ => ""
  | .error fault => s!"invalid base64: {fault.message}"

/-- Why the value of a field cannot be read. -/
def reason (q : Request) : Field → String
  | .version =>
    let shown := Text.quoted (q.text .version)
    s!"{shown} is not a version number"
  | f => base64Reason q f

/-- The error if a stage fails after all earlier ones have passed. -/
def error (q : Request) : Stage → LaunchError
  | readable f => .invalidInput f.name (reason q f)
  | version => .unsupportedVersion q.version 1
  | present f => .invalidInput f.name "must not be empty"
  | vectorLength => .invalidInput "IV" s!"expected {16} bytes, got {(q.bytes .vector).length}"
  | unwrap | decrypt => .decryptionFailed
  | unpack => .authenticationFailed "malformed signature length prefix"
  | signature => .authenticationFailed "RSA signature mismatch"
  | text => .invalidInput "plaintext" "not valid UTF-8"

end Stage

namespace Request

/-- The stages of the fields, in the order of the query. -/
def fieldStages (q : Request) : List Stage := (firstFields (Query.parse q.query)).map .readable

/-- The stages of the form of a package. -/
def formStages : List Stage :=
  [.present .cipherPayload, .present .wrappedKey, .present .vector, .vectorLength]

/-- The stages that can be looked at without a key. -/
def structuralStages (q : Request) : List Stage := q.fieldStages ++ .version :: formStages

/-- The stages between the structural ones and a verified signature. -/
def secretStages : List Stage := [.unwrap, .decrypt, .unpack, .signature]

/-- The order of all stages. -/
def stages (q : Request) : List Stage := q.structuralStages ++ (secretStages ++ [.text])

/-- The answer found by going through stages up to the first that fails. -/
@[reducible]
def judge {α : Type} (q : Request) (stages : List Stage) (result : Except LaunchError α) :
    Except LaunchError α :=
  Staged.judge (Stage.Passes q) (Stage.error q) stages result

end Request

/-! ### Reading the fields -/

section Reading

variable (q : Request)

/-- The package in the query. -/
def package : Package :=
  ⟨q.bytes .cipherPayload, q.bytes .wrappedKey, q.bytes .vector, q.version⟩

theorem decodeValue_eq (f : Field) :
    Package.decodeValue f ((Query.get? q.query f.name).getD "") =
      if (Base64.decodeText (q.text f)).isOk then .ok (q.bytes f)
      else .error (.invalidInput f.name (Stage.base64Reason q f)) := by
  unfold Package.decodeValue Request.bytes Stage.base64Reason
  rw [← Request.text]
  cases Base64.decodeText (q.text f) <;> rfl

theorem decodeVersion_eq :
    Package.decodeVersion ((Query.get? q.query Field.version.name).getD "") =
      if (Stage.readable .version).Passes q then .ok q.version
      else .error ((Stage.readable .version).error q) := by
  unfold Package.decodeVersion
  rw [← Request.text]
  by_cases absent : q.text .version = ""
  · have none : Package.version? "" = none := rfl
    simp [Stage.Passes, Request.version, absent, none]
  · cases number : Package.version? (q.text .version) <;>
      simp [Stage.Passes, Stage.error, Stage.reason, Request.version, absent, number]

/-- A field is put in if its value can be read. -/
theorem set_eq (p : Package) (f : Field) :
    p.set f ((Query.get? q.query f.name).getD "") =
      if (Stage.readable f).Passes q then .ok (Package.copy (package q) p f)
      else .error ((Stage.readable f).error q) := by
  cases f with
  | version =>
    rw [Package.set, decodeVersion_eq]
    split <;> simp only [Except.map, Package.copy, package]
  | cipherPayload | wrappedKey | vector =>
    rw [Package.set, decodeValue_eq]
    simp only [Stage.Passes, Stage.error, Stage.reason, Package.copy, package]
    split
    · rename_i readable
      exact (if_pos readable).symm
    · rename_i unreadable
      exact (if_neg unreadable).symm

theorem foldlM_set_eq_judge (fields : List Field) (p : Package) :
    fields.foldlM (fun p f => p.set f ((Query.get? q.query f.name).getD "")) p =
      q.judge (fields.map .readable) (.ok (fields.foldl (Package.copy (package q)) p)) := by
  induction fields generalizing p with
  | nil => rfl
  | cons f fields ih =>
    rw [List.foldlM_cons, set_eq, List.map_cons, Request.judge, Staged.judge_cons]
    split
    · exact ih _
    · rfl

/-- A field that does not occur is empty or zero. -/
theorem copy_empty {f : Field} (h : f ∉ firstFields (Query.parse q.query)) :
    Package.copy (package q) .empty f = .empty := by
  have absent : q.text f = "" := by
    rw [Request.text, Query.get?, Package.lookup_eq_none_of_not_mem_firstFields h]
    rfl
  have read : Base64.decodeText "" = .ok [] := rfl
  have none : Package.version? "" = none := rfl
  cases f <;>
    simp [Package.copy, Package.empty, package, Request.bytes, Request.version, absent, read, none]

/-- The fields are read in the order of the query. -/
theorem deserialize_eq_judge :
    Package.deserialize q.query = q.judge q.fieldStages (.ok (package q)) := by
  rw [Package.deserialize_eq_foldlM, foldlM_set_eq_judge,
    Package.foldl_copy_eq fun _ => copy_empty q]
  rfl

end Reading

/-! ### Opening a package -/

section Opening

-- what stands in the query is not looked into any more
attribute [local irreducible] Request.bytes Request.version

variable (q : Request)

theorem checkVersion_eq (p : Package) :
    checkVersion p =
      if p.version = 1 then .ok () else .error (.unsupportedVersion p.version 1) := rfl

theorem checkForm_eq (p : Package) :
    checkForm p =
      if p.cipherPayload ≠ [] then
        if p.wrappedKey ≠ [] then
          if p.vector ≠ [] then
            if p.vector.length = 16 then .ok ()
            else .error (.invalidInput "IV" s!"expected {16} bytes, got {p.vector.length}")
          else .error (.invalidInput "IV" "must not be empty")
        else .error (.invalidInput "ESP" "must not be empty")
      else .error (.invalidInput "SEUS" "must not be empty") := by
  unfold checkForm
  simp only [ne_eq, ite_not]
  rfl

theorem checkVersion_eq_judge : checkVersion (package q) = q.judge [.version] (.ok ()) := by
  have version : (package q).version = q.version := rfl
  simp only [Request.judge, Staged.judge_cons, Staged.judge_nil, Stage.Passes, Stage.error,
    ← version]
  exact checkVersion_eq (package q)

theorem checkForm_eq_judge : checkForm (package q) = q.judge Request.formStages (.ok ()) := by
  have payload : (package q).cipherPayload = q.bytes .cipherPayload := rfl
  have key : (package q).wrappedKey = q.bytes .wrappedKey := rfl
  have vector : (package q).vector = q.bytes .vector := rfl
  simp only [Request.judge, Request.formStages, Staged.judge_cons, Staged.judge_nil, Stage.Passes,
    Stage.error, Field.name, ← payload, ← key, ← vector]
  exact checkForm_eq (package q)

/-- Under an initial vector of the right length a payload is decrypted exactly if its stage passes.
-/
theorem decrypt_eq_ok_iff (vector : (q.bytes .vector).length = 16)
    (present : q.bytes .cipherPayload ≠ []) {packed : Bytes} :
    Cbc.decrypt q.sessionKey (q.bytes .vector) (q.bytes .cipherPayload) = .ok packed ↔
      Stage.decrypt.Passes q ∧ q.packed = packed := by
  have blocks : ∀ keys, Aes.KeySchedule.ofKey? q.sessionKey = some keys →
      Block.bytes (Cbc.unchain keys.decrypt (Block.ofBytes (q.bytes .vector))
        (Block.list (q.bytes .cipherPayload))) = q.padded := by
    intro keys scheduled
    unfold Request.padded
    rw [scheduled]
  simp only [Cbc.decrypt_eq_ok_iff, Cbc.blockSize, Stage.Passes, Request.packed]
  constructor
  · rintro ⟨keys, -, scheduled, -, whole, removed⟩
    rw [blocks keys scheduled] at removed
    obtain ⟨padding, taken⟩ := Padding.remove?_eq_some_iff_count.mp removed
    exact ⟨⟨whole, Aes.KeySchedule.length_of_ofKey? scheduled, padding⟩, taken⟩
  · rintro ⟨⟨whole, admitted, padding⟩, rfl⟩
    obtain ⟨keys, scheduled⟩ := Aes.KeySchedule.exists_ofKey? admitted
    refine ⟨keys, vector, scheduled, present, whole, ?_⟩
    rw [blocks keys scheduled]
    exact Padding.remove?_eq_some_iff_count.mpr ⟨padding, rfl⟩

theorem unpack_eq_ok_iff {message : SignedPayload} :
    SignedPayload.unpack q.packed = .ok message ↔
      Stage.unpack.Passes q ∧ message = ⟨q.payload, q.signature⟩ := by
  rw [SignedPayload.unpack_eq_ok_iff]
  simp only [Stage.Passes, Request.signatureLength, Request.payload, Request.signature, and_assoc]

/-- The unwrapped session key is the one that later stages look at. -/
theorem unwrap_eq_some_iff {key : Bytes} :
    Rsa.unwrap? q.recipient (q.bytes .wrappedKey) = some key ↔
      Stage.unwrap.Passes q ∧ q.sessionKey = key := by
  simp only [Stage.Passes, Request.sessionKey]
  cases Rsa.unwrap? q.recipient (q.bytes .wrappedKey) <;> simp

/-- What is decrypted once the form of the package is right. -/
theorem decrypt_eq_judge_of_form (form : ∀ s ∈ Request.formStages, s.Passes q) :
    decrypt (package q) q.recipient =
      q.judge [.unwrap, .decrypt, .unpack] (.ok ⟨q.payload, q.signature⟩) := by
  have checked : checkForm (package q) = .ok () := by
    rw [checkForm_eq_judge]
    exact Staged.judge_eq_ok_iff.mpr ⟨form, rfl⟩
  have present : q.bytes .cipherPayload ≠ [] := form (.present .cipherPayload) (by decide)
  have vector : (q.bytes .vector).length = 16 := form .vectorLength (by decide)
  have decrypts {packed : Bytes} :
      Cbc.decrypt q.sessionKey (q.bytes .vector) (q.bytes .cipherPayload) = .ok packed ↔
        Stage.decrypt.Passes q ∧ q.packed = packed :=
    decrypt_eq_ok_iff q vector present
  rw [decrypt, checked]
  simp only [package, Staged.judge_cons, Staged.judge_nil]
  -- each inner error is replaced by that of its stage, so the cases are those of the stages
  cases unwrapped : Rsa.unwrap? q.recipient (q.bytes .wrappedKey) with
  | none =>
    have fails : ¬ Stage.unwrap.Passes q := by simp [Stage.Passes, unwrapped]
    rw [if_neg fails]
    rfl
  | some key =>
    obtain ⟨unwraps, rfl⟩ := (unwrap_eq_some_iff q).mp unwrapped
    simp only [if_pos unwraps]
    cases decrypted : Cbc.decrypt q.sessionKey (q.bytes .vector) (q.bytes .cipherPayload) with
    | error fault =>
      have fails : ¬ Stage.decrypt.Passes q := by
        intro passes
        cases decrypted.symm.trans (decrypts.mpr ⟨passes, rfl⟩)
      rw [if_neg fails]
      rfl
    | ok packed =>
      obtain ⟨passes, rfl⟩ := decrypts.mp decrypted
      simp only [if_pos passes]
      cases unpacked : SignedPayload.unpack q.packed with
      | error fault =>
        have fails : ¬ Stage.unpack.Passes q := by
          intro passes
          cases unpacked.symm.trans ((unpack_eq_ok_iff q).mpr ⟨passes, rfl⟩)
        rw [if_neg fails]
        rfl
      | ok message =>
        obtain ⟨passes, rfl⟩ := (unpack_eq_ok_iff q).mp unpacked
        simp only [if_pos passes]

theorem decrypt_eq_judge :
    decrypt (package q) q.recipient =
      q.judge (Request.formStages ++ [.unwrap, .decrypt, .unpack])
        (.ok ⟨q.payload, q.signature⟩) := by
  -- an error of the form is handed on, so looking at the form once more changes nothing
  have formFirst :
      decrypt (package q) q.recipient =
        checkForm (package q) >>= fun _ => decrypt (package q) q.recipient := by
    cases checked : checkForm (package q) with
    | error e =>
      rw [decrypt, checked]
      rfl
    | ok _ => rfl
  calc decrypt (package q) q.recipient
      = checkForm (package q) >>= fun _ => decrypt (package q) q.recipient := formFirst
    _ = q.judge Request.formStages (decrypt (package q) q.recipient) := by
        rw [checkForm_eq_judge, Staged.judge_bind]
    _ = q.judge Request.formStages
          (q.judge [.unwrap, .decrypt, .unpack] (.ok ⟨q.payload, q.signature⟩)) :=
        Staged.judge_congr (decrypt_eq_judge_of_form q)
    _ = q.judge (Request.formStages ++ [.unwrap, .decrypt, .unpack])
          (.ok ⟨q.payload, q.signature⟩) := by
        exact (Staged.judge_append _ _ _).symm

theorem verify_eq_judge :
    SignedPayload.verify ⟨q.payload, q.signature⟩ q.sender = q.judge [.signature] (.ok ()) := by
  rw [SignedPayload.verify, Request.judge, Staged.judge_cons, Staged.judge_nil]
  by_cases verified : Rsa.verify q.sender q.payload q.signature
  · have passes : Stage.signature.Passes q := verified
    rw [if_pos verified, if_pos passes]
  · have fails : ¬ Stage.signature.Passes q := verified
    rw [if_neg verified, if_neg fails, Stage.error]

/-- The text of a payload, if it is one. -/
theorem readText_eq_judge :
    (match Text.ofUtf8? q.payload with
      | some text => .ok text
      | none => .error (.invalidInput "plaintext" "not valid UTF-8") : Except LaunchError String) =
      q.judge [.text] (.ok ((Text.ofUtf8? q.payload).getD "")) := by
  rw [Request.judge, Staged.judge_cons, Staged.judge_nil]
  cases decoded : Text.ofUtf8? q.payload with
  | none =>
    have fails : ¬ Stage.text.Passes q := by simp [Stage.Passes, decoded]
    rw [if_neg fails, Stage.error]
  | some text =>
    have passes : Stage.text.Passes q := by simp [Stage.Passes, decoded]
    rw [if_pos passes, Option.getD_some]

/-- An opening goes through the stages. -/
theorem openQuery_eq_judge :
    openQuery q.query q.recipient q.sender =
      q.judge q.stages (.ok ((Text.ofUtf8? q.payload).getD "")) := by
  have order : q.stages = q.fieldStages ++ ([.version] ++
      ((Request.formStages ++ [.unwrap, .decrypt, .unpack]) ++ ([.signature] ++ [.text]))) := by
    simp only [Request.stages, Request.structuralStages, Request.secretStages, List.append_assoc,
      List.cons_append, List.nil_append]
  rw [order]
  -- the four parts of an opening bring their stages one behind the other
  simp only [Request.judge, Staged.judge_append]
  rw [openQuery, deserialize_eq_judge, Staged.judge_bind, checkVersion_eq_judge, Staged.judge_bind,
    decrypt_eq_judge, Staged.judge_bind, verify_eq_judge, Staged.judge_bind, Staged.judge_append]
  simp only [← readText_eq_judge]
  rfl

end Opening

/-! ### The answer -/

/-- All stages pass, and the text is the payload. -/
def Request.Opens (q : Request) (text : String) : Prop :=
  (∀ s ∈ q.stages, s.Passes q) ∧ Text.utf8 text = q.payload

/-- A stage fails, and all before it pass. -/
def Request.FailsAt (q : Request) (s : Stage) : Prop :=
  ∃ passed later, q.stages = passed ++ s :: later ∧ (∀ p ∈ passed, p.Passes q) ∧ ¬ s.Passes q

/-- The errors between the structural stages and a verified signature. -/
def secretErrors : List LaunchError :=
  [.decryptionFailed, .authenticationFailed "malformed signature length prefix",
    .authenticationFailed "RSA signature mismatch"]

/-- Behind the structural stages nothing gets out before the signature is verified but one of three
errors, and no text gets out without. -/
def Request.FailsClosed (q : Request) (answer : Except LaunchError String) : Prop :=
  ((∀ s ∈ q.structuralStages, s.Passes q) → (∃ s ∈ secretStages, ¬ s.Passes q) →
    ∃ e ∈ secretErrors, answer = .error e) ∧
  ∀ text, answer = .ok text → Rsa.verify q.sender (Text.utf8 text) q.signature

section Answer

variable (q : Request)

theorem openQuery_eq_ok_iff {text : String} :
    openQuery q.query q.recipient q.sender = .ok text ↔ q.Opens text := by
  rw [openQuery_eq_judge, Staged.judge_eq_ok_iff, Request.Opens]
  refine and_congr_right fun passes => ?_
  have decodes : Stage.text.Passes q := passes _ (by simp [Request.stages])
  obtain ⟨decoded, decode⟩ := Option.isSome_iff_exists.mp decodes
  rw [← Text.ofUtf8?_eq_some_iff, decode, Option.getD_some, Option.some_inj]

theorem openQuery_eq_error_iff {e : LaunchError} :
    openQuery q.query q.recipient q.sender = .error e ↔ ∃ s, q.FailsAt s ∧ e = s.error q := by
  rw [openQuery_eq_judge, Staged.judge_eq_error_iff]
  constructor
  · rintro ⟨passed, s, later, order, before, fails, rfl⟩
    exact ⟨s, ⟨passed, later, order, before, fails⟩, rfl⟩
  · rintro ⟨s, ⟨passed, later, order, before, fails⟩, rfl⟩
    exact ⟨passed, s, later, order, before, fails, rfl⟩

variable {q} in
theorem Request.Opens.verify {text : String} (h : q.Opens text) :
    Rsa.verify q.sender (Text.utf8 text) q.signature := by
  obtain ⟨passes, payload⟩ := h
  rw [payload]
  exact passes .signature (by simp [Request.stages, Request.secretStages])

theorem error_mem_secretErrors {s : Stage} (h : s ∈ Request.secretStages) :
    s.error q ∈ secretErrors := by
  simp only [Request.secretStages, List.mem_cons, List.not_mem_nil, or_false] at h
  rcases h with rfl | rfl | rfl | rfl <;> simp [Stage.error, secretErrors]

theorem openQuery_failsClosed : q.FailsClosed (openQuery q.query q.recipient q.sender) := by
  constructor
  · intro structural secret
    have secretFirst : openQuery q.query q.recipient q.sender =
        q.judge Request.secretStages
          (q.judge [.text] (.ok ((Text.ofUtf8? q.payload).getD ""))) := by
      rw [openQuery_eq_judge, Request.stages, Request.judge, Staged.judge_append,
        Staged.judge_of_passes structural, Staged.judge_append]
    obtain ⟨s, member, refused⟩ := Staged.exists_judge_eq_error secret _
    exact ⟨s.error q, error_mem_secretErrors q member, secretFirst.trans refused⟩
  · intro text opened
    exact ((openQuery_eq_ok_iff q).mp opened).verify

/-- The secret stages are those whose errors count as a possible attack. -/
theorem kind_error_eq_authentication_iff {s : Stage} :
    (s.error q).kind = .authentication ↔ s ∈ Request.secretStages := by
  cases s with
  | readable f | present f => simp [Stage.error, LaunchError.kind, Request.secretStages]
  | version | vectorLength | unwrap | decrypt | unpack | signature | text =>
    simp [Stage.error, LaunchError.kind, Request.secretStages]

/-- The error of a secret stage is the same for all queries and keys. -/
theorem error_eq_of_mem_secretStages {s : Stage} (h : s ∈ Request.secretStages)
    (other : Request) : s.error other = s.error q := by
  simp only [Request.secretStages, List.mem_cons, List.not_mem_nil, or_false] at h
  rcases h with rfl | rfl | rfl | rfl <;> rfl

end Answer

/-- The exact answer to every query: the payload if all stages pass, and otherwise the error of the
first that fails. Up to a verified signature it tells nothing of what is decrypted. -/
theorem openQuery_decides (query : String) (recipient : Rsa.PrivateKey) (sender : Rsa.PublicKey) :
    let q : Request := ⟨query, recipient, sender⟩
    (∀ text, openQuery query recipient sender = .ok text ↔ q.Opens text) ∧
    (∀ e, openQuery query recipient sender = .error e ↔ ∃ s, q.FailsAt s ∧ e = s.error q) ∧
    q.FailsClosed (openQuery query recipient sender) ∧
    (∀ s, (s.error q).kind = .authentication ↔ s ∈ Request.secretStages) ∧
    ∀ s ∈ Request.secretStages, ∀ other, s.error other = s.error q := by
  intro q
  refine ⟨fun text => openQuery_eq_ok_iff q, fun e => openQuery_eq_error_iff q,
    openQuery_failsClosed q, fun s => kind_error_eq_authentication_iff q, ?_⟩
  intro s member other
  exact error_eq_of_mem_secretStages q member other

/-- A query without any field is one of version zero. -/
example (recipient : Rsa.PrivateKey) (sender : Rsa.PublicKey) :
    openQuery "" recipient sender = .error (.unsupportedVersion 0 1) := rfl

end SealedLink.PublicKeyLink
