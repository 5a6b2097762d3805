import SealedLink.Proofs.SignedPayload

/-!
# Packing in machine words

The length of a signature is a whole number, but the four bytes in front of a packed payload are a
word of 32 bits. Here packing and unpacking are done as a machine does them: a number that does not
fit into its word, or a cut behind the end of a byte string, has no result. Every payload and every
byte string has one nevertheless, since both lengths are checked before.

## Main definitions

* `SignedPayload.word32?`, `SignedPayload.cut?` — the two steps that may have no result
* `SignedPayload.packInWords`, `SignedPayload.unpackInWords` — packing and unpacking with them

## Main results

* `SignedPayload.packInWords_eq`, `SignedPayload.unpackInWords_eq` — nothing is lost in the words
* `SignedPayload.packing_is_exact` — packing and unpacking are inverse, and what is refused
-/

namespace SealedLink.SignedPayload

/-! ### Steps -/

/-- The word for a number, nothing if it would lose bits. -/
def word32? (n : Nat) : Option UInt32 :=
  if n < UInt32.size then some (UInt32.ofNat n) else none

/-- A byte string cut in two, nothing if it ends in front of the cut. -/
def cut? (n : Nat) (b : Bytes) : Option (Bytes × Bytes) :=
  if n ≤ b.length then some (b.take n, b.drop n) else none

/-- Packing, with the length of the signature put into a word. -/
def packInWords (m : SignedPayload) : Option (Except LaunchError Bytes) :=
  if maxSignatureLength < m.signature.length then
    some (.error (.signatureLengthExceeded m.signature.length maxSignatureLength))
  else do
    let length ← word32? m.signature.length
    return .ok (Bytes.ofNatLE lengthSize length.toNat ++ (m.signature ++ m.payload))

/-- Unpacking, with a word for the length and a cut at that place. -/
def unpackInWords (packed : Bytes) : Option (Except LaunchError SignedPayload) :=
  match Octets.split? lengthSize packed with
  | none =>
    some (.error (.invalidInput "decrypted data"
      "contains no or insufficient signature length information"))
  | some (digits, rest) =>
    let length := UInt32.ofNat (Bytes.toNatLE digits.toBytes)
    if maxSignatureLength < length.toNat then
      some (.error (.signatureLengthExceeded length.toNat maxSignatureLength))
    else if rest.length < length.toNat then
      some (.error (.invalidInput "signature" (beyondRest length.toNat rest.length)))
    else do
      let (signature, payload) ← cut? length.toNat rest
      return .ok ⟨payload, signature⟩

/-! ### Nothing is lost -/

/-- An admitted length is far below the greatest number in a word. -/
theorem packInWords_eq (m : SignedPayload) : packInWords m = some (pack m) := by
  unfold packInWords pack
  split
  · rfl
  · rename_i admitted
    have fits : m.signature.length < UInt32.size :=
      Nat.lt_of_le_of_lt (Nat.not_lt.mp admitted) (by decide)
    have value := UInt32.toNat_ofNat_of_lt' fits
    simp only [word32?, if_pos fits, Option.bind_eq_bind, Option.bind_some, value]
    rfl

/-- Four bytes are one word, and behind the checks the cut is inside the rest. -/
theorem unpackInWords_eq (packed : Bytes) : unpackInWords packed = some (unpack packed) := by
  unfold unpackInWords unpack
  cases Octets.split? lengthSize packed with
  | none => rfl
  | some parts =>
    obtain ⟨digits, rest⟩ := parts
    have fits : Bytes.toNatLE digits.toBytes < UInt32.size := by
      have bound := Bytes.toNatLE_lt digits.toBytes
      rw [Octets.length_toBytes] at bound
      exact bound
    simp only [UInt32.toNat_ofNat_of_lt' fits]
    split
    · rfl
    · split
      · rfl
      · rename_i inside
        simp only [cut?, if_pos (Nat.not_lt.mp inside)]
        rfl

/-! ### Packing and unpacking -/

/-- **Packing and unpacking are inverse.** A payload is packed exactly if its signature is not too
long, and packed bytes are those that are taken apart into it. Bytes are taken apart exactly if the
length in front of them is admitted and not more than what follows; other bytes are refused for the
first reason that holds. A length that would be negative with a sign is too long. No length is cut
off in its word, and no byte string is cut behind its end. -/
theorem packing_is_exact :
    (∀ m, (∃ packed, pack m = .ok packed) ↔ m.signature.length ≤ 1024) ∧
    (∀ m packed, pack m = .ok packed ↔ unpack packed = .ok m) ∧
    (∀ packed, (∃ m, unpack packed = .ok m) ↔
      4 ≤ packed.length ∧ declaredLength packed ≤ 1024 ∧
        declaredLength packed ≤ packed.length - 4) ∧
    (∀ packed e, unpack packed = .error e ↔ FailsWith packed e) ∧
    (∀ packed, 4 ≤ packed.length → (UInt32.ofNat (declaredLength packed)).toInt32 < 0 →
      unpack packed = .error (.signatureLengthExceeded (declaredLength packed) 1024)) ∧
    (∀ m, packInWords m = some (pack m)) ∧
    ∀ packed, unpackInWords packed = some (unpack packed) := by
  refine ⟨?_, fun _ _ => unpack_eq_ok_iff_pack.symm, ?_, fun _ _ => unpack_eq_error_iff, ?_,
    packInWords_eq, unpackInWords_eq⟩
  · intro m
    simp only [pack_eq_ok_iff, exists_and_left, exists_eq', and_true]
  · intro packed
    simp only [unpack_eq_ok_iff, exists_and_left, exists_eq, and_true]
    omega
  · intro packed prefixed negative
    have long : 1024 < declaredLength packed := by
      by_contra admitted
      -- an admitted length is the same number with a sign
      have value := Int32.toInt_ofNat_of_lt (n := declaredLength packed) (by omega)
      rw [UInt32.toInt32_ofNat', Int32.lt_iff_toInt_lt, value, Int32.toInt_zero] at negative
      omega
    exact unpack_eq_error_iff.mpr (.excessive prefixed long)

/-- The greatest length in a word, minus one with a sign, is refused like every other excessive one,
and its number is told. -/
theorem greatest_length_is_refused :
    (UInt32.ofNat (declaredLength [0xff, 0xff, 0xff, 0xff, 1])).toInt32 < 0 ∧
      unpack [0xff, 0xff, 0xff, 0xff, 1] = .error (.signatureLengthExceeded 4294967295 1024) := by
  have negative : (UInt32.ofNat (declaredLength [0xff, 0xff, 0xff, 0xff, 1])).toInt32 < 0 := by
    decide
  obtain ⟨-, -, -, -, refused, -, -⟩ := packing_is_exact
  exact ⟨negative, refused _ (by decide) negative⟩

end SealedLink.SignedPayload
