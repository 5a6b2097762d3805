import SealedLink.Envelope.Format
import SealedLink.Proofs.Bytes

/-!
# Envelopes are read back

A byte string is read as an envelope if its first byte announces a format and the whole header of
that format is there. Nothing is lost or added on the way, in either direction.

## Main definitions

* `Envelope.IsComplete` — the whole header of a format

## Main results

* `Envelope.parse_encode` — an envelope of either format is read from its bytes
* `Envelope.encode_of_parse` — bytes that are read as an envelope are those of the envelope
* `Envelope.isComplete_iff` — a whole header is that of an envelope
* `Envelope.parse_eq_legacy_iff`, `Envelope.parse_eq_modern_iff` — the parts of an envelope, by
  their places
* `Envelope.parse_inverts_encode` — all of it
-/

namespace SealedLink.Envelope

variable {m n : Nat} {b rest : Bytes} {x : Octets m} {y : Octets n} {e : Envelope}

/-! ### Reading what was written -/

theorem splitHeader?_append (x : Octets m) (y : Octets n) (rest : Bytes) :
    splitHeader? m n (x.toBytes ++ (y.toBytes ++ rest)) = some (x, y, rest) := by
  simp only [splitHeader?, Octets.split?_append, Option.bind_eq_bind, Option.bind_some]
  rfl

/-- The format byte leads the reader to the layout that was written. -/
theorem parse_encode (e : Envelope) : parse (encode e) = .ok e := by
  cases e with
  | legacy mac nonce ciphertext =>
    have format : FormatVersion.ofByte? FormatVersion.legacy.toByte = some .legacy := rfl
    simp only [encode, parse, format, splitHeader?_append]
  | modern nonce tag ciphertext =>
    have format : FormatVersion.ofByte? FormatVersion.modern.toByte = some .modern := rfl
    simp only [encode, parse, format, splitHeader?_append]

/-! ### Writing what was read -/

theorem eq_append_of_splitHeader? (h : splitHeader? m n b = some (x, y, rest)) :
    b = x.toBytes ++ (y.toBytes ++ rest) := by
  unfold splitHeader? at h
  simp only [Option.bind_eq_bind, Option.bind_eq_some_iff, Option.pure_def, Option.some.injEq] at h
  obtain ⟨⟨x', middle⟩, first, ⟨y', rest'⟩, second, same⟩ := h
  cases same
  rw [Octets.eq_append_of_split? first]
  exact congrArg (x'.toBytes ++ ·) (Octets.eq_append_of_split? second)

theorem eq_toByte_of_ofByte? {b : UInt8} {version : FormatVersion}
    (h : FormatVersion.ofByte? b = some version) : b = version.toByte := by
  unfold FormatVersion.ofByte? at h
  split at h
  · cases h
    assumption
  · split at h
    · cases h
      assumption
    · cases h

/-- No part of an envelope is lost or made up by its reader. -/
theorem encode_of_parse (h : parse b = .ok e) : encode e = b := by
  unfold parse at h
  split at h
  · cases h
  · split at h
    · rename_i format
      split at h
      · rename_i parts
        cases h
        rw [eq_append_of_splitHeader? parts, eq_toByte_of_ofByte? format]
        rfl
      · cases h
    · rename_i format
      split at h
      · rename_i parts
        cases h
        rw [eq_append_of_splitHeader? parts, eq_toByte_of_ofByte? format]
        rfl
      · cases h
    · cases h

theorem parse_eq_ok_iff : parse b = .ok e ↔ encode e = b := by
  constructor
  · exact encode_of_parse
  · rintro rfl
    exact parse_encode e

/-! ### Whole headers -/

/-- A byte string has the format byte and the whole header of a format. -/
def IsComplete (version : FormatVersion) (b : Bytes) : Prop :=
  b.head? = some version.toByte ∧ version.headerLength ≤ b.length

instance (version : FormatVersion) (b : Bytes) : Decidable (IsComplete version b) :=
  inferInstanceAs (Decidable (_ ∧ _))

theorem isComplete_encode (x : Envelope) : IsComplete x.version x.encode := by
  cases x with
  | legacy mac nonce ciphertext =>
    refine ⟨rfl, ?_⟩
    simp only [version, encode, FormatVersion.headerLength, List.length_cons, List.length_append,
      Octets.length_toBytes]
    omega
  | modern nonce tag ciphertext =>
    refine ⟨rfl, ?_⟩
    simp only [version, encode, FormatVersion.headerLength, List.length_cons, List.length_append,
      Octets.length_toBytes]
    omega

theorem exists_splitHeader? (h : m + n ≤ b.length) :
    ∃ (x : Octets m) (y : Octets n) (rest : Bytes), b = x.toBytes ++ (y.toBytes ++ rest) := by
  obtain ⟨x, -, first⟩ := Octets.exists_split? (n := m) (b := b) (by omega)
  obtain ⟨y, -, second⟩ := Octets.exists_split? (n := n) (b := b.drop m)
    (by rw [List.length_drop]; omega)
  refine ⟨x, y, (b.drop m).drop n, ?_⟩
  rw [← Octets.eq_append_of_split? second, ← Octets.eq_append_of_split? first]

/-- What has the whole header of a format is an envelope of that format. -/
theorem isComplete_iff {version : FormatVersion} :
    IsComplete version b ↔ ∃ x : Envelope, x.version = version ∧ x.encode = b := by
  constructor
  · rintro ⟨announced, long⟩
    obtain ⟨rest, rfl⟩ := List.head?_eq_some_iff.mp announced
    cases version with
    | legacy =>
      have room : 32 + 16 ≤ rest.length := Nat.le_of_succ_le_succ long
      obtain ⟨mac, nonce, ciphertext, rfl⟩ := exists_splitHeader? room
      exact ⟨legacy mac nonce ciphertext, rfl, rfl⟩
    | modern =>
      have room : 12 + 16 ≤ rest.length := Nat.le_of_succ_le_succ long
      obtain ⟨nonce, tag, ciphertext, rfl⟩ := exists_splitHeader? room
      exact ⟨modern nonce tag ciphertext, rfl, rfl⟩
  · rintro ⟨x, rfl, rfl⟩
    exact isComplete_encode x

theorem exists_parse_iff : (∃ e, parse b = .ok e) ↔ ∃ version, IsComplete version b := by
  constructor
  · rintro ⟨e, read⟩
    exact ⟨e.version, isComplete_iff.mpr ⟨e, rfl, encode_of_parse read⟩⟩
  · rintro ⟨version, complete⟩
    obtain ⟨e, -, written⟩ := isComplete_iff.mp complete
    exact ⟨e, parse_eq_ok_iff.mpr written⟩

/-! ### Places -/

/-- Two fields of fixed sizes behind a byte, by their places. -/
theorem cons_append_eq_iff {first : UInt8} :
    first :: (x.toBytes ++ (y.toBytes ++ rest)) = b ↔
      b.head? = some first ∧ m + n + 1 ≤ b.length ∧ x.toBytes = (b.drop 1).take m ∧
        y.toBytes = (b.drop (m + 1)).take n ∧ rest = b.drop (m + n + 1) := by
  constructor
  · rintro rfl
    refine ⟨rfl, ?_, ?_, ?_, ?_⟩
    · simp only [List.length_cons, List.length_append, Octets.length_toBytes]
      omega
    · exact (List.take_left' x.length_eq).symm
    · rw [List.drop_succ_cons, List.drop_left' x.length_eq]
      exact (List.take_left' y.length_eq).symm
    · rw [List.drop_succ_cons, ← List.drop_drop, List.drop_left' x.length_eq]
      exact (List.drop_left' y.length_eq).symm
  · rintro ⟨announced, -, left, middle, rfl⟩
    obtain ⟨body, rfl⟩ := List.head?_eq_some_iff.mp announced
    rw [left, middle]
    simp only [List.drop_succ_cons, List.drop_zero]
    rw [← List.drop_drop, List.take_append_drop, List.take_append_drop]

theorem parse_eq_legacy_iff {mac : Octets 32} {nonce : Octets 16} {ciphertext : Bytes} :
    parse b = .ok (legacy mac nonce ciphertext) ↔
      b.head? = some 1 ∧ 49 ≤ b.length ∧ mac.toBytes = (b.drop 1).take 32 ∧
        nonce.toBytes = (b.drop 33).take 16 ∧ ciphertext = b.drop 49 :=
  parse_eq_ok_iff.trans cons_append_eq_iff

theorem parse_eq_modern_iff {nonce : Octets 12} {tag : Octets 16} {ciphertext : Bytes} :
    parse b = .ok (modern nonce tag ciphertext) ↔
      b.head? = some 2 ∧ 29 ≤ b.length ∧ nonce.toBytes = (b.drop 1).take 12 ∧
        tag.toBytes = (b.drop 13).take 16 ∧ ciphertext = b.drop 29 :=
  parse_eq_ok_iff.trans cons_append_eq_iff

/-- **Reading and writing envelopes are inverse.** Every envelope is read from its bytes, and what
is read as an envelope are its bytes. A byte string is read exactly if it begins with the byte of a
format and has the whole header of that format; the envelope is then of that format, and its parts
are found at fixed places. -/
theorem parse_inverts_encode :
    (∀ e, parse (encode e) = .ok e) ∧
    (∀ b e, parse b = .ok e → encode e = b ∧ b.head? = some e.version.toByte) ∧
    (∀ b, (∃ e, parse b = .ok e) ↔
      b.head? = some 1 ∧ 49 ≤ b.length ∨ b.head? = some 2 ∧ 29 ≤ b.length) ∧
    (∀ b mac nonce ciphertext, parse b = .ok (legacy mac nonce ciphertext) ↔
      b.head? = some 1 ∧ 49 ≤ b.length ∧ mac.toBytes = (b.drop 1).take 32 ∧
        nonce.toBytes = (b.drop 33).take 16 ∧ ciphertext = b.drop 49) ∧
    (∀ b nonce tag ciphertext, parse b = .ok (modern nonce tag ciphertext) ↔
      b.head? = some 2 ∧ 29 ≤ b.length ∧ nonce.toBytes = (b.drop 1).take 12 ∧
        tag.toBytes = (b.drop 13).take 16 ∧ ciphertext = b.drop 29) := by
  refine ⟨parse_encode, ?_, ?_, ?_, ?_⟩
  · intro b e read
    have written := encode_of_parse read
    exact ⟨written, (isComplete_iff.mpr ⟨e, rfl, written⟩).1⟩
  · intro b
    rw [exists_parse_iff]
    constructor
    · rintro ⟨version, complete⟩
      cases version with
      | legacy => exact .inl complete
      | modern => exact .inr complete
    · rintro (complete | complete)
      · exact ⟨.legacy, complete⟩
      · exact ⟨.modern, complete⟩
  · exact fun _ _ _ _ => parse_eq_legacy_iff
  · exact fun _ _ _ _ => parse_eq_modern_iff

/-- The shortest modern envelope has no byte to spare: its nonce and its tag are told apart, and
written again they give the same bytes. -/
theorem bare_header_is_read :
    ∃ nonce tag,
      parse (2 :: (List.replicate 12 7 ++ List.replicate 16 9)) = .ok (modern nonce tag []) ∧
        nonce.toBytes = List.replicate 12 7 ∧ tag.toBytes = List.replicate 16 9 ∧
        encode (modern nonce tag []) = 2 :: (List.replicate 12 7 ++ List.replicate 16 9) := by
  obtain ⟨-, inverse, -, -, places⟩ := parse_inverts_encode
  have read := (places (2 :: (List.replicate 12 7 ++ List.replicate 16 9))
    ⟨List.replicate 12 7, rfl⟩ ⟨List.replicate 16 9, rfl⟩ []).mpr
    ⟨rfl, by decide, by decide, by decide, by decide⟩
  exact ⟨_, _, read, rfl, rfl, (inverse _ _ read).1⟩

end SealedLink.Envelope
