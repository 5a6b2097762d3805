import Mathlib.Data.List.Induction
import SealedLink.Certificate.Party
import SealedLink.Proofs.Failure

/-!
# The keys of a party belong together

A party begins with the public key of its certificate and without a private key. A private key is
attached exactly if the public key is its public part, and nothing else of the party changes then.
So a party holds a pair of keys or no private key at all, wherever its certificate was read and
however many keys have been attached since.

## Main definitions

* `PartyCertificate.IsMatched` — a private key is there only beside its public part
* `PartyCertificate.Attachment`, `PartyCertificate.attach` — the two ways of attaching a key
* `PartyCertificate.build`, `PartyCertificate.IsBuilt` — a certificate that is read, and then any
  attachments one after the other

## Main results

* `PartyCertificate.attach_eq_ok_iff` — what is attached, and to which parties
* `PartyCertificate.build_eq_ok_iff` — what a party is after any number of attachments
* `PartyCertificate.IsBuilt.isMatched` — the parties that are built
-/

namespace SealedLink.PartyCertificate

variable {p q : PartyCertificate} {key : Rsa.PrivateKey}

/-- If the party has a private key, the public key of the party is its public part. -/
def IsMatched (p : PartyCertificate) : Prop :=
  ∀ key, p.privateKey = some key → p.publicKey = some key.publicKey

/-! ### The keys of a party -/

section Require

variable {name : String} {publicKey : Rsa.PublicKey}

theorem requirePublicKey_of_eq_some (h : p.publicKey = some publicKey) :
    p.requirePublicKey name = .ok publicKey := by
  rw [requirePublicKey, h]

theorem requirePublicKey_of_eq_none (h : p.publicKey = none) :
    p.requirePublicKey name = .error (.missingPublicKey name) := by
  rw [requirePublicKey, h]

theorem requirePrivateKey_of_eq_some (h : p.privateKey = some key) :
    p.requirePrivateKey name = .ok key := by
  rw [requirePrivateKey, h]

theorem requirePrivateKey_of_eq_none (h : p.privateKey = none) :
    p.requirePrivateKey name = .error (.missingPrivateKey name) := by
  rw [requirePrivateKey, h]

end Require

/-- Without a public key there is no private key either. -/
theorem IsMatched.privateKey_eq_none (h : p.IsMatched) (lacks : p.publicKey = none) :
    p.privateKey = none := by
  cases attached : p.privateKey with
  | none => rfl
  | some key =>
    have known := h key attached
    rw [lacks] at known
    cases known

/-! ### Attaching a key -/

theorem withPrivateKey_eq_ok_iff :
    p.withPrivateKey key = .ok q ↔
      p.publicKey = some key.publicKey ∧ q = { p with privateKey := some key } := by
  unfold withPrivateKey
  cases p.publicKey with
  | none => simp
  | some publicKey =>
    by_cases same : key.publicKey = publicKey
    · simp [same, eq_comm]
    · simp [same, Ne.symm same]

/-- A private key that is handed over. -/
inductive Attachment where
  /-- The key itself. -/
  | itself (key : Rsa.PrivateKey)
  /-- The text of its file. -/
  | keyFile (text : String)

/-- The private key that is handed over, or why it cannot be read. -/
def Attachment.load : Attachment → Except LaunchError Rsa.PrivateKey
  | itself key => .ok key
  | keyFile text => Rsa.PrivateKey.ofText text

/-- The party with the private key that is handed over. -/
def attach (p : PartyCertificate) : Attachment → Except LaunchError PartyCertificate
  | .itself key => p.withPrivateKey key
  | .keyFile text => p.withPrivateKeyText text

/-- The key that is handed over can be read, and its public part is the public key of the party. -/
def Accepts (p : PartyCertificate) (a : Attachment) : Prop :=
  ∃ key, a.load = .ok key ∧ p.publicKey = some key.publicKey

variable {a : Attachment} {attachments : List Attachment}

theorem attach_eq_bind (p : PartyCertificate) (a : Attachment) :
    p.attach a = a.load >>= p.withPrivateKey := by
  cases a with
  | itself key => rfl
  | keyFile text =>
    rw [attach, withPrivateKeyText, Attachment.load]
    cases Rsa.PrivateKey.ofText text <;> rfl

/-- A key is attached exactly if it can be read and belongs to the public key, and then it is all
that changes. -/
theorem attach_eq_ok_iff :
    p.attach a = .ok q ↔ ∃ key, a.load = .ok key ∧ p.publicKey = some key.publicKey ∧
      q = { p with privateKey := some key } := by
  simp only [attach_eq_bind, bind_eq_ok_iff, withPrivateKey_eq_ok_iff]

theorem exists_attach_iff : (∃ q, p.attach a = .ok q) ↔ p.Accepts a := by
  simp only [attach_eq_ok_iff, Accepts]
  constructor
  · rintro ⟨_, key, loaded, known, -⟩
    exact ⟨key, loaded, known⟩
  · rintro ⟨key, loaded, known⟩
    exact ⟨_, key, loaded, known, rfl⟩

/-! ### Attaching keys again and again -/

/-- The key that is handed over last. -/
def lastKey? (attachments : List Attachment) : Option Rsa.PrivateKey :=
  attachments.getLast?.bind fun a => a.load.toOption

/-- Attachments go through exactly if each of them would by itself, and the last key stays. -/
theorem foldlM_attach_eq_ok_iff :
    attachments.foldlM attach p = .ok q ↔ (∀ a ∈ attachments, p.Accepts a) ∧
      q = { p with privateKey := (lastKey? attachments).or p.privateKey } := by
  -- by induction from the end, since the last attachment alone decides about the private key
  induction attachments using List.reverseRecOn generalizing q with
  | nil => simp [lastKey?, pure, Except.pure, eq_comm (a := p)]
  | append_singleton attachments a ih =>
    have last {key : Rsa.PrivateKey} (loaded : a.load = .ok key) :
        lastKey? (attachments ++ [a]) = some key := by
      rw [lastKey?, List.getLast?_concat, Option.bind_some, toOption_eq_some_iff, loaded]
    simp only [List.foldlM_append, bind_eq_ok_iff, ih, List.foldlM_cons, List.foldlM_nil, bind_pure,
      attach_eq_ok_iff, List.forall_mem_append, List.forall_mem_singleton]
    constructor
    · rintro ⟨_, ⟨others, rfl⟩, key, loaded, known, rfl⟩
      refine ⟨⟨others, key, loaded, known⟩, ?_⟩
      rw [last loaded, Option.some_or]
    · rintro ⟨⟨others, key, loaded, known⟩, rfl⟩
      rw [last loaded, Option.some_or]
      exact ⟨_, ⟨others, rfl⟩, key, loaded, known, rfl⟩

/-! ### Parties that are built -/

/-- Where a certificate is read. -/
inductive Source where
  /-- In armored text. -/
  | armored (b : Bytes)
  /-- In its binary form. -/
  | binary (b : Bytes)

/-- The party of a certificate. -/
def ofSource : Source → Except LaunchError PartyCertificate
  | .armored b => ofArmoredBytes b
  | .binary b => ofBytes b

/-- The party of a certificate after keys have been attached one after the other. The first that is
refused ends it. -/
def build (source : Source) (attachments : List Attachment) :
    Except LaunchError PartyCertificate := do
  attachments.foldlM attach (← ofSource source)

/-- The party comes from a certificate and attachments. -/
def IsBuilt (p : PartyCertificate) : Prop := ∃ source attachments, build source attachments = .ok p

variable {source : Source}

theorem privateKey_of_ofFound {c : Option Certificate} (h : ofFound c = .ok p) :
    p.privateKey = none := by
  cases c with
  | none => cases h
  | some c =>
    cases h
    rfl

/-- A certificate brings no private key along. -/
theorem privateKey_of_ofSource (h : ofSource source = .ok p) : p.privateKey = none := by
  cases source with
  | armored b => exact privateKey_of_ofFound h
  | binary b => exact privateKey_of_ofFound h

/-- A party is its certificate with the key attached last, where all attachments belong to the
public key of the certificate. -/
theorem build_eq_ok_iff :
    build source attachments = .ok q ↔ ∃ bare, ofSource source = .ok bare ∧
      (∀ a ∈ attachments, bare.Accepts a) ∧
      q = { bare with privateKey := lastKey? attachments } := by
  rw [build, bind_eq_ok_iff]
  refine exists_congr fun bare => and_congr_right fun read => ?_
  rw [foldlM_attach_eq_ok_iff, privateKey_of_ofSource read, Option.or_none]

/-- The key handed over last is one that was handed over. -/
theorem exists_load_of_lastKey? (h : lastKey? attachments = some key) :
    ∃ a ∈ attachments, a.load = .ok key := by
  obtain ⟨a, last, read⟩ := Option.bind_eq_some_iff.mp h
  exact ⟨a, List.mem_of_getLast? last, toOption_eq_some_iff.mp read⟩

/-- Every party that is built has a pair of keys or no private key. -/
theorem IsBuilt.isMatched (h : p.IsBuilt) : p.IsMatched := by
  obtain ⟨source, attachments, built⟩ := h
  obtain ⟨bare, -, accepted, rfl⟩ := build_eq_ok_iff.mp built
  intro key attached
  obtain ⟨a, member, loaded⟩ := exists_load_of_lastKey? attached
  obtain ⟨key', loaded', known⟩ := accepted a member
  rw [loaded] at loaded'
  cases loaded'
  exact known

end SealedLink.PartyCertificate
