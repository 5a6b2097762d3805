import SealedLink.Proofs.Bytes
import SealedLink.SignedPayload

/-!
# Packed payloads are read back

A packed payload begins with the length of its signature, which is all that is needed to find the
two parts. Where the number does not fit the rest, nothing is read.

## Main definitions

* `SignedPayload.declaredLength` — the number at the front of packed bytes
* `SignedPayload.FailsWith` — why bytes are not taken apart

## Main results

* `SignedPayload.unpack_eq_ok_iff` — exactly which bytes are taken apart, and into what
* `SignedPayload.unpack_eq_error_iff` — the error for bytes that are not taken apart
* `SignedPayload.unpack_of_pack`, `SignedPayload.pack_of_unpack` — what is packed is taken apart
  again, and what is taken apart is packed again
* `SignedPayload.signature_ne_of_front` — a change in front of the payload is one of the signature
-/

namespace SealedLink.SignedPayload

variable {m : SignedPayload} {packed : Bytes}

/-- The length of the signature according to the first four bytes. -/
def declaredLength (packed : Bytes) : Nat := Bytes.toNatLE (packed.take 4)

/-- What the log says of a length that is more than what is left. -/
def beyondRest (declared available : Nat) : String :=
  s!"declared signature length {declared} exceeds the {available} bytes of signature and payload"

/-- Bytes are not taken apart, for the first of three reasons that holds. -/
inductive FailsWith (packed : Bytes) : LaunchError → Prop
  /-- There is no room for a length. -/
  | incomplete (short : packed.length < 4) :
    FailsWith packed
      (.invalidInput "decrypted data" "contains no or insufficient signature length information")
  /-- The length is more than a signature may have. -/
  | excessive (prefixed : 4 ≤ packed.length) (long : 1024 < declaredLength packed) :
    FailsWith packed (.signatureLengthExceeded (declaredLength packed) 1024)
  /-- The length is more than what is left. -/
  | beyond (prefixed : 4 ≤ packed.length) (admitted : declaredLength packed ≤ 1024)
      (missing : packed.length - 4 < declaredLength packed) :
    FailsWith packed
      (.invalidInput "signature" (beyondRest (declaredLength packed) (packed.length - 4)))

theorem unpack_of_lt (h : packed.length < 4) :
    unpack packed = .error (.invalidInput "decrypted data"
      "contains no or insufficient signature length information") := by
  have short : Octets.split? lengthSize packed = none := Octets.split?_eq_none_iff.mpr h
  rw [unpack, short]

theorem unpack_of_le (h : 4 ≤ packed.length) :
    unpack packed =
      if 1024 < declaredLength packed then
        .error (.signatureLengthExceeded (declaredLength packed) 1024)
      else if packed.length - 4 < declaredLength packed then
        .error (.invalidInput "signature" (beyondRest (declaredLength packed) (packed.length - 4)))
      else .ok ⟨packed.drop (4 + declaredLength packed),
        (packed.drop 4).take (declaredLength packed)⟩ := by
  obtain ⟨digits, written, split⟩ := Octets.exists_split? (n := lengthSize) h
  have declared : Bytes.toNatLE digits.toBytes = declaredLength packed := by
    rw [written]
    rfl
  have rest : (packed.drop lengthSize).length = packed.length - 4 := List.length_drop
  simp only [unpack, split, declared, rest, List.drop_drop]
  rfl

theorem unpack_eq_error_iff {e : LaunchError} : unpack packed = .error e ↔ FailsWith packed e := by
  constructor
  · intro refused
    by_cases prefixed : 4 ≤ packed.length
    · rw [unpack_of_le prefixed] at refused
      split at refused
      · rename_i long
        cases refused
        exact .excessive prefixed long
      · rename_i admitted
        split at refused
        · rename_i missing
          cases refused
          exact .beyond prefixed (Nat.not_lt.mp admitted) missing
        · cases refused
    · have short := Nat.not_le.mp prefixed
      rw [unpack_of_lt short] at refused
      cases refused
      exact .incomplete short
  · rintro (short | ⟨prefixed, long⟩ | ⟨prefixed, admitted, missing⟩)
    · exact unpack_of_lt short
    · rw [unpack_of_le prefixed, if_pos long]
    · rw [unpack_of_le prefixed, if_neg (Nat.not_lt.mpr admitted), if_pos missing]

theorem unpack_eq_ok_iff :
    unpack packed = .ok m ↔ 4 ≤ packed.length ∧ declaredLength packed ≤ 1024 ∧
      4 + declaredLength packed ≤ packed.length ∧
      m = ⟨packed.drop (4 + declaredLength packed),
        (packed.drop 4).take (declaredLength packed)⟩ := by
  constructor
  · intro unpacked
    by_cases prefixed : 4 ≤ packed.length
    · rw [unpack_of_le prefixed] at unpacked
      split at unpacked
      · cases unpacked
      · rename_i admitted
        split at unpacked
        · cases unpacked
        · cases unpacked
          exact ⟨prefixed, Nat.not_lt.mp admitted, by omega, rfl⟩
    · rw [unpack_of_lt (Nat.not_le.mp prefixed)] at unpacked
      cases unpacked
  · rintro ⟨prefixed, admitted, inside, rfl⟩
    rw [unpack_of_le prefixed, if_neg (Nat.not_lt.mpr admitted), if_neg (by omega)]

theorem pack_eq_ok_iff :
    pack m = .ok packed ↔ m.signature.length ≤ 1024 ∧
      Bytes.ofNatLE lengthSize m.signature.length ++ (m.signature ++ m.payload) = packed := by
  unfold pack
  by_cases long : maxSignatureLength < m.signature.length
  · have refused : ¬ m.signature.length ≤ 1024 := Nat.not_le.mpr long
    simp [long, refused]
  · have admitted : m.signature.length ≤ 1024 := Nat.not_lt.mp long
    simp [long, admitted]

theorem pack_of_long (h : 1024 < m.signature.length) :
    pack m = .error (.signatureLengthExceeded m.signature.length 1024) := by
  rw [pack]
  exact if_pos h

/-- What is packed is taken apart again, also if there is no payload. -/
theorem unpack_of_pack (h : pack m = .ok packed) : unpack packed = .ok m := by
  obtain ⟨admitted, rfl⟩ := pack_eq_ok_iff.mp h
  have size : (Bytes.ofNatLE lengthSize m.signature.length).length = 4 := Bytes.length_ofNatLE _ _
  have declared : declaredLength (Bytes.ofNatLE lengthSize m.signature.length ++
      (m.signature ++ m.payload)) = m.signature.length := by
    -- four bytes hold more than any admitted length
    have fits : m.signature.length < 256 ^ lengthSize :=
      Nat.lt_of_le_of_lt admitted (by decide)
    rw [declaredLength, List.take_left' size, Bytes.toNatLE_ofNatLE, Nat.mod_eq_of_lt fits]
  rw [unpack_eq_ok_iff, declared]
  refine ⟨?_, admitted, ?_, ?_⟩
  · rw [List.length_append, size]
    omega
  · simp only [List.length_append, size]
    omega
  · have rest : (Bytes.ofNatLE lengthSize m.signature.length ++
        (m.signature ++ m.payload)).drop 4 = m.signature ++ m.payload := List.drop_left' size
    rw [← List.drop_drop, rest, List.drop_left, List.take_left]

/-- What is taken apart is packed again to the same bytes, so no two byte strings are taken apart
into the same parts. -/
theorem pack_of_unpack (h : unpack packed = .ok m) : pack m = .ok packed := by
  obtain ⟨prefixed, admitted, inside, rfl⟩ := unpack_eq_ok_iff.mp h
  have length : ((packed.drop 4).take (declaredLength packed)).length = declaredLength packed := by
    rw [List.length_take, List.length_drop]
    omega
  have digits : Bytes.ofNatLE lengthSize (declaredLength packed) = packed.take 4 := by
    have size : (packed.take 4).length = lengthSize := by
      rw [List.length_take]
      exact Nat.min_eq_left prefixed
    rw [← size]
    exact Bytes.ofNatLE_toNatLE _
  refine pack_eq_ok_iff.mpr ⟨Nat.le_trans (Nat.le_of_eq length) admitted, ?_⟩
  dsimp only
  rw [length, digits, ← List.drop_drop, List.take_append_drop, List.take_append_drop]

theorem unpack_eq_ok_iff_pack : unpack packed = .ok m ↔ pack m = .ok packed :=
  ⟨pack_of_unpack, unpack_of_pack⟩

theorem drop_of_pack (h : pack m = .ok packed) :
    packed.drop (4 + m.signature.length) = m.payload := by
  obtain ⟨-, rfl⟩ := pack_eq_ok_iff.mp h
  have size : (Bytes.ofNatLE lengthSize m.signature.length).length = 4 := Bytes.length_ofNatLE _ _
  rw [← List.drop_drop, List.drop_left' size, List.drop_left]

theorem length_of_pack (h : pack m = .ok packed) :
    packed.length = 4 + m.signature.length + m.payload.length := by
  obtain ⟨-, rfl⟩ := pack_eq_ok_iff.mp h
  rw [List.length_append, List.length_append, Bytes.length_ofNatLE, ← Nat.add_assoc]
  rfl

/-- If packed bytes are changed in front of the payload, but not the length of the signature, then
the signature is another one for the same payload. -/
theorem signature_ne_of_front {changed : Bytes} {m' : SignedPayload} {n : Nat}
    (h : pack m = .ok packed) (h' : pack m' = .ok changed) (front : n ≤ 4 + m.signature.length)
    (behind : changed.drop n = packed.drop n) (different : changed ≠ packed)
    (length : m'.signature.length = m.signature.length) :
    m'.payload = m.payload ∧ m'.signature ≠ m.signature := by
  have payload : m'.payload = m.payload := by
    obtain ⟨k, split⟩ := Nat.exists_eq_add_of_le front
    calc m'.payload
      _ = changed.drop (4 + m.signature.length) := by rw [← length, drop_of_pack h']
      _ = (changed.drop n).drop k := by rw [split, List.drop_drop]
      _ = (packed.drop n).drop k := by rw [behind]
      _ = packed.drop (4 + m.signature.length) := by rw [split, List.drop_drop]
      _ = m.payload := drop_of_pack h
  refine ⟨payload, ?_⟩
  intro signature
  have same : m' = m := by
    calc m'
      _ = ⟨m'.payload, m'.signature⟩ := rfl
      _ = ⟨m.payload, m.signature⟩ := by rw [payload, signature]
  rw [same, h] at h'
  exact different (Except.ok.inj h').symm

end SealedLink.SignedPayload
