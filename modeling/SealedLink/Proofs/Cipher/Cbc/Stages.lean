import SealedLink.Proofs.Cipher.Cbc
import SealedLink.Proofs.Staged

/-!
# The domain of block chaining

Encryption asks for the lengths of its initial vector and its key and for nothing else. Decryption
also asks for whole blocks, before it looks at the key, and for padding in the end. On what is left
the two are inverse to each other: a ciphertext that passes all stages is the encryption of what it
decrypts to, and every encryption passes them.

## Main definitions

* `Padding.IsPadded` — a byte string ends in padding
* `Cbc.Request` — all that decides about a use of the mode
* `Cbc.Stage`, `Stage.Passes`, `Stage.error` — the stages, what each asks for, and its error
* `Cbc.encryption`, `Cbc.decryption` — the orders of the stages
* `Cbc.FailsFirst` — an error is that of the first stage that fails

## Main results

* `Cbc.encrypt_eq_error_iff`, `Cbc.decrypt_eq_error_iff` — why a text or a ciphertext is refused
* `Cbc.length_of_encrypt` — how long a ciphertext is
* `Cbc.inverse_on_domain` — encryption and decryption are inverse, and refuse all else
-/

namespace SealedLink

namespace Padding

/-- A byte string ends in padding: in `n` bytes of value `n`, at least one and at most a block. -/
def IsPadded (b : Bytes) : Prop :=
  ∃ (text : Bytes) (last : UInt8), 1 ≤ last.toNat ∧ last.toNat ≤ 16 ∧
    b = text ++ List.replicate last.toNat last

theorem exists_remove?_iff {b : Bytes} : (∃ text, remove? b = some text) ↔ IsPadded b := by
  simp only [remove?_eq_some_iff, IsPadded]

instance (b : Bytes) : Decidable (IsPadded b) :=
  decidable_of_iff ((remove? b).isSome = true) (by
    rw [Option.isSome_iff_exists, exists_remove?_iff])

end Padding

namespace Cbc

/-- All that decides about an encryption or a decryption. -/
structure Request where
  /-- The key. -/
  key : Bytes
  /-- The initial vector. -/
  vector : Bytes
  /-- The text or the ciphertext. -/
  input : Bytes

/-- The decrypted blocks of a ciphertext, with their padding. -/
def Request.padded (q : Request) : Bytes :=
  match Aes.KeySchedule.ofKey? q.key with
  | some keys => Block.bytes (unchain keys.decrypt (Block.ofBytes q.vector) (Block.list q.input))
  | none => []

/-! ### Stages -/

/-- The stages of an encryption or a decryption. -/
inductive Stage where
  /-- The initial vector has its length. -/
  | vector
  /-- A ciphertext consists of blocks. -/
  | blocks
  /-- The key has one of its lengths. -/
  | key
  /-- The decrypted blocks end in padding. -/
  | padding
  deriving DecidableEq

namespace Stage

/-- What a stage asks for. -/
def Passes (q : Request) : Stage → Prop
  | vector => q.vector.length = 16
  | blocks => q.input ≠ [] ∧ q.input.length % 16 = 0
  | key => q.key.length = 16 ∨ q.key.length = 24 ∨ q.key.length = 32
  | padding => Padding.IsPadded q.padded

instance (q : Request) (s : Stage) : Decidable (s.Passes q) :=
  match s with
  | vector => inferInstanceAs (Decidable (q.vector.length = 16))
  | blocks => inferInstanceAs (Decidable (_ ∧ _))
  | key => inferInstanceAs (Decidable (_ ∨ _))
  | padding => inferInstanceAs (Decidable (Padding.IsPadded q.padded))

/-- The error if a stage fails after all earlier ones have passed. -/
def error (q : Request) : Stage → CryptoError
  | vector => .malformed s!"IV must be {16} bytes, got {q.vector.length}"
  | blocks => .malformed
      s!"ciphertext length {q.input.length} is not a positive multiple of {16}"
  | key => .invalidKeyLength 32 q.key.length
  | padding => .malformed "invalid padding"

end Stage

/-- The stages of an encryption. -/
def encryption : List Stage := [.vector, .key]

/-- The stages of a decryption. -/
def decryption : List Stage := [.vector, .blocks, .key, .padding]

/-- An error is that of the first stage that fails. -/
def FailsFirst (q : Request) (stages : List Stage) (e : CryptoError) : Prop :=
  ∃ passed s later, stages = passed ++ s :: later ∧ (∀ p ∈ passed, p.Passes q) ∧ ¬ s.Passes q ∧
    e = s.error q

variable {q : Request} {key iv plaintext ciphertext : Bytes} {e : CryptoError}

theorem failsFirst_iff_judge {stages : List Stage} (result : Bytes) :
    FailsFirst q stages e ↔
      Staged.judge (Stage.Passes q) (Stage.error q) stages (.ok result) = .error e :=
  Staged.judge_eq_error_iff.symm

/-- The error for anything but the key tells that the input does not have its form. -/
theorem exists_reason_of_failsFirst {stages : List Stage} (h : FailsFirst q stages e)
    (noKey : .key ∉ stages) : ∃ reason, e = .malformed reason := by
  obtain ⟨passed, s, later, rfl, -, -, rfl⟩ := h
  cases s with
  | key => exact absurd (List.mem_append_right _ List.mem_cons_self) noKey
  | vector | blocks | padding => exact ⟨_, rfl⟩

/-! ### Going through the stages -/

theorem vector_eq (q : Request) :
    vector q.vector =
      if Stage.vector.Passes q then .ok (Block.ofBytes q.vector)
      else .error (Stage.vector.error q) := rfl

theorem not_passes_blocks_iff (q : Request) :
    ¬ Stage.blocks.Passes q ↔ q.input = [] ∨ q.input.length % blockSize ≠ 0 := by
  rw [Stage.Passes, not_and_or, not_not]
  rfl

theorem schedule_of_not_passes (h : ¬ Stage.key.Passes q) :
    schedule q.key = .error (Stage.key.error q) := by
  have none : Aes.KeySchedule.ofKey? q.key = none := if_neg h
  rw [schedule, none]
  rfl

/-- Every text gets through an encryption that passes its two stages. -/
theorem exists_encrypt_eq_judge (q : Request) :
    ∃ result, encrypt q.key q.vector q.input =
      Staged.judge (Stage.Passes q) (Stage.error q) encryption (.ok result) := by
  simp only [encryption, Staged.judge_cons, Staged.judge_nil]
  by_cases size : Stage.vector.Passes q
  · by_cases admitted : Stage.key.Passes q
    · obtain ⟨ciphertext, encrypted⟩ := exists_encrypt size admitted q.input
      exact ⟨ciphertext, by rw [encrypted, if_pos size, if_pos admitted]⟩
    · refine ⟨[], ?_⟩
      rw [encrypt, vector_eq, if_pos size, if_pos size, if_neg admitted,
        schedule_of_not_passes admitted]
      rfl
  · refine ⟨[], ?_⟩
    rw [encrypt, vector_eq, if_neg size, if_neg size]
    rfl

/-- A decryption looks at the key once it has blocks and an initial vector. -/
theorem decrypt_of_blocks (size : Stage.vector.Passes q) (whole : Stage.blocks.Passes q) :
    decrypt q.key q.vector q.input = (do
      let keys ← schedule q.key
      match Padding.remove? (Block.bytes
        (unchain keys.decrypt (Block.ofBytes q.vector) (Block.list q.input))) with
      | some plaintext => return plaintext
      | none => throw (Stage.padding.error q)) := by
  have shape : ¬ (q.input = [] ∨ q.input.length % blockSize ≠ 0) :=
    (not_passes_blocks_iff q).not.mp (not_not.mpr whole)
  rw [decrypt, vector_eq, if_pos size]
  simp only [bind, Except.bind, if_neg shape]
  rfl

/-- With a key as well, only the padding is left to fail. -/
theorem exists_decrypt_of_key (size : Stage.vector.Passes q) (whole : Stage.blocks.Passes q)
    (admitted : Stage.key.Passes q) :
    ∃ result, decrypt q.key q.vector q.input =
      if Stage.padding.Passes q then .ok result else .error (Stage.padding.error q) := by
  obtain ⟨keys, scheduled⟩ := Aes.KeySchedule.exists_ofKey? admitted
  have blocks : q.padded =
      Block.bytes (unchain keys.decrypt (Block.ofBytes q.vector) (Block.list q.input)) := by
    rw [Request.padded, scheduled]
  refine ⟨(Padding.remove? q.padded).getD [], ?_⟩
  rw [decrypt_of_blocks size whole, schedule, scheduled]
  simp only [bind, Except.bind, ← blocks]
  by_cases padded : Stage.padding.Passes q
  · obtain ⟨text, removed⟩ := Padding.exists_remove?_iff.mpr padded
    rw [if_pos padded, removed]
    rfl
  · have none : Padding.remove? q.padded = none := by
      rw [Option.eq_none_iff_forall_ne_some]
      intro text removed
      exact padded (Padding.exists_remove?_iff.mp ⟨text, removed⟩)
    rw [if_neg padded, none]
    rfl

theorem exists_decrypt_eq_judge (q : Request) :
    ∃ result, decrypt q.key q.vector q.input =
      Staged.judge (Stage.Passes q) (Stage.error q) decryption (.ok result) := by
  simp only [decryption, Staged.judge_cons, Staged.judge_nil]
  by_cases size : Stage.vector.Passes q
  · by_cases whole : Stage.blocks.Passes q
    · by_cases admitted : Stage.key.Passes q
      · simp only [if_pos size, if_pos whole, if_pos admitted]
        exact exists_decrypt_of_key size whole admitted
      · refine ⟨[], ?_⟩
        rw [decrypt_of_blocks size whole, schedule_of_not_passes admitted, if_pos size,
          if_pos whole, if_neg admitted]
        rfl
    -- a ciphertext without whole blocks is refused before the key is looked at
    · refine ⟨[], ?_⟩
      rw [decrypt, vector_eq, if_pos size, if_pos size, if_neg whole]
      simp only [bind, Except.bind, if_pos ((not_passes_blocks_iff q).mp whole)]
      rfl
  · refine ⟨[], ?_⟩
    rw [decrypt, vector_eq, if_neg size, if_neg size]
    rfl

/-! ### Why a text or a ciphertext is refused -/

theorem encrypt_eq_error_iff :
    encrypt key iv plaintext = .error e ↔ FailsFirst ⟨key, iv, plaintext⟩ encryption e := by
  obtain ⟨result, judged⟩ := exists_encrypt_eq_judge ⟨key, iv, plaintext⟩
  rw [failsFirst_iff_judge result, ← judged]

theorem decrypt_eq_error_iff :
    decrypt key iv ciphertext = .error e ↔ FailsFirst ⟨key, iv, ciphertext⟩ decryption e := by
  obtain ⟨result, judged⟩ := exists_decrypt_eq_judge ⟨key, iv, ciphertext⟩
  rw [failsFirst_iff_judge result, ← judged]

/-- A ciphertext has one block for every block of the text that is begun, and one more if the text
ends with a block. -/
theorem length_of_encrypt (h : encrypt key iv plaintext = .ok ciphertext) :
    ciphertext.length = 16 * (plaintext.length / 16 + 1) := by
  obtain ⟨keys, -, -, rfl⟩ := encrypt_eq_ok_iff.mp h
  have whole : (Padding.add plaintext).length % 16 = 0 := by
    rw [Padding.length_add]
    omega
  rw [Block.length_bytes, length_chain, ← Block.length_bytes, Block.bytes_list whole,
    Padding.length_add]

/-! ### The domain -/

theorem exists_encrypt_iff :
    (∃ ciphertext, encrypt key iv plaintext = .ok ciphertext) ↔
      iv.length = 16 ∧ (key.length = 16 ∨ key.length = 24 ∨ key.length = 32) := by
  constructor
  · rintro ⟨ciphertext, encrypted⟩
    obtain ⟨keys, size, scheduled, -⟩ := encrypt_eq_ok_iff.mp encrypted
    exact ⟨size, Aes.KeySchedule.length_of_ofKey? scheduled⟩
  · rintro ⟨size, admitted⟩
    exact exists_encrypt size admitted plaintext

/-- **Block chaining is inverted in both directions on its domain.** Under any key and initial
vector a text encrypts to a ciphertext exactly if the ciphertext decrypts to the text, and the
length of the text determines that of the ciphertext. Every text is encrypted if the key and the
initial vector have admitted lengths. What is refused is refused for the first stage that fails,
and a ciphertext is looked at before the key. -/
theorem inverse_on_domain (key iv : Bytes) :
    (∀ plaintext ciphertext, encrypt key iv plaintext = .ok ciphertext ↔
      decrypt key iv ciphertext = .ok plaintext) ∧
    (∀ plaintext ciphertext, encrypt key iv plaintext = .ok ciphertext →
      ciphertext.length = 16 * (plaintext.length / 16 + 1)) ∧
    (∀ plaintext, (∃ ciphertext, encrypt key iv plaintext = .ok ciphertext) ↔
      iv.length = 16 ∧ (key.length = 16 ∨ key.length = 24 ∨ key.length = 32)) ∧
    (∀ plaintext e, encrypt key iv plaintext = .error e ↔
      FailsFirst ⟨key, iv, plaintext⟩ [.vector, .key] e) ∧
    ∀ ciphertext e, decrypt key iv ciphertext = .error e ↔
      FailsFirst ⟨key, iv, ciphertext⟩ [.vector, .blocks, .key, .padding] e :=
  ⟨fun _ _ => decrypt_eq_ok_iff_encrypt.symm, fun _ _ => length_of_encrypt,
    fun _ => exists_encrypt_iff, fun _ _ => encrypt_eq_error_iff, fun _ _ => decrypt_eq_error_iff⟩

/-- A text of one block becomes a ciphertext of two, which decrypts to it again. Without a key the
empty ciphertext is refused for its length, and before that for an initial vector of twelve bytes.
-/
theorem whole_block_gets_another :
    (∃ ciphertext, encrypt (List.replicate 24 1) (List.replicate 16 2) (List.replicate 16 3) =
        .ok ciphertext ∧ ciphertext.length = 32 ∧
      decrypt (List.replicate 24 1) (List.replicate 16 2) ciphertext =
        .ok (List.replicate 16 3)) ∧
    decrypt [] (List.replicate 16 2) [] =
      .error (.malformed "ciphertext length 0 is not a positive multiple of 16") ∧
    decrypt [] (List.replicate 12 2) [] = .error (.malformed "IV must be 16 bytes, got 12") := by
  obtain ⟨inverse, length, domain, -, -⟩ :=
    inverse_on_domain (List.replicate 24 1) (List.replicate 16 2)
  obtain ⟨ciphertext, encrypted⟩ := (domain (List.replicate 16 3)).mpr (by decide)
  refine ⟨⟨ciphertext, encrypted, length _ _ encrypted, (inverse _ _).mp encrypted⟩, ?_, ?_⟩
  · obtain ⟨-, -, -, -, refused⟩ := inverse_on_domain [] (List.replicate 16 2)
    exact (refused [] _).mpr ⟨[.vector], .blocks, [.key, .padding], rfl, by decide, by decide, rfl⟩
  · obtain ⟨-, -, -, -, refused⟩ := inverse_on_domain [] (List.replicate 12 2)
    exact (refused [] _).mpr
      ⟨[], .vector, [.blocks, .key, .padding], rfl, by decide, by decide, rfl⟩

end Cbc

end SealedLink
