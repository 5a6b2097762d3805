import SealedLink.Text.Utf8

/-!
# Text survives its bytes

The bytes of a text are the encodings of its characters, one after the other. The core library can
read the character at the front; reading a whole text, strictly or with replacement, gives the text
back, and replacement never sets in.

## Main results

* `Text.utf8_ofList` — the bytes of a text, character by character
* `Text.ofUtf8?_utf8`, `Text.ofUtf8Lossy_utf8` — both ways of reading give a text back
* `Text.utf8_inj` — no two texts have the same bytes
* `Text.utf8_ofAscii` — a text of one character for each ASCII byte has these bytes
* `Text.mem_toList_of_mem_utf8`, `Text.head?_of_utf8_eq_cons` — and an ASCII byte comes from its
  character only
-/

namespace SealedLink.Text

/-! ### The bytes of a text -/

theorem utf8_append (s t : String) : utf8 (s ++ t) = utf8 s ++ utf8 t := by
  rw [utf8, String.toByteArray_append, ByteArray.data_append, Array.toList_append]
  rfl

theorem utf8_ofList (chars : List Char) :
    utf8 (String.ofList chars) = chars.flatMap String.utf8EncodeChar := by
  rw [utf8, String.toByteArray_ofList, List.utf8Encode, List.data_toByteArray]

theorem utf8_eq_flatMap_toList (s : String) : utf8 s = s.toList.flatMap String.utf8EncodeChar := by
  rw [← utf8_ofList, String.ofList_toList]

/-- An ASCII character is encoded as the byte of its number. -/
theorem utf8EncodeChar_ofNat {b : UInt8} (h : b < 0x80) :
    String.utf8EncodeChar (Char.ofNat b.toNat) = [b] := by
  have small : b.toNat < 128 := UInt8.lt_iff_toNat_lt.mp h
  have valid : b.toNat.isValidChar := .inl (by omega)
  have number : (Char.ofNat b.toNat).val = b.toUInt32 := by
    rw [Char.ofNat, dif_pos valid]
    exact UInt32.toNat_inj.mp (UInt8.toNat_toUInt32 b).symm
  have size : (Char.ofNat b.toNat).utf8Size = 1 := by
    rw [Char.utf8Size_eq_one_iff, number, UInt32.le_iff_toNat_le]
    exact Nat.le_of_lt_succ small
  rw [String.utf8EncodeChar_eq_singleton size, number, UInt8.toUInt8_toUInt32]

/-- A byte of ASCII in the encoding of a character is all of it. -/
theorem eq_of_mem_utf8EncodeChar {b : UInt8} {c : Char} (h : b ∈ String.utf8EncodeChar c)
    (ascii : b < 0x80) : c = Char.ofNat b.toNat := by
  have small : b.toNat < 128 := UInt8.lt_iff_toNat_lt.mp ascii
  -- the bytes of a longer encoding have their high bit set, the first one and those after it
  have continued (n : Nat) : b ≠ UInt8.ofNat (n % 64 + 128) := by
    rintro rfl
    rw [UInt8.toNat_ofNat'] at small
    omega
  have number : c.val.toNat = b.toNat := by
    unfold String.utf8EncodeChar at h
    dsimp only at h
    split at h
    · rw [List.mem_singleton.mp h, UInt8.toNat_ofNat']
      omega
    · split at h
      all_goals try split at h
      -- in every form of several bytes the first one is too great as well
      all_goals
        simp only [List.mem_cons, List.not_mem_nil, or_false, continued] at h
        rw [h, UInt8.toNat_ofNat'] at small
        omega
  rw [← number]
  exact (Char.ofNat_toNat c).symm

theorem mem_toList_of_mem_utf8 {b : UInt8} {s : String} (h : b ∈ utf8 s) (ascii : b < 0x80) :
    Char.ofNat b.toNat ∈ s.toList := by
  rw [utf8_eq_flatMap_toList] at h
  obtain ⟨c, member, encoded⟩ := List.mem_flatMap.mp h
  rw [← eq_of_mem_utf8EncodeChar encoded ascii]
  exact member

/-- A text whose bytes begin with one of ASCII begins with its character. -/
theorem head?_of_utf8_eq_cons {b : UInt8} {rest : Bytes} {s : String} (h : utf8 s = b :: rest)
    (ascii : b < 0x80) : s.toList.head? = some (Char.ofNat b.toNat) := by
  rw [utf8_eq_flatMap_toList] at h
  cases written : s.toList with
  | nil =>
    rw [written] at h
    cases h
  | cons c chars =>
    obtain ⟨first, others, encoding⟩ :=
      List.exists_cons_of_ne_nil (String.utf8EncodeChar_ne_nil (c := c))
    rw [written, List.flatMap_cons, encoding] at h
    obtain rfl : first = b := (List.cons.inj h).1
    have member : first ∈ String.utf8EncodeChar c := encoding ▸ List.mem_cons_self
    rw [← eq_of_mem_utf8EncodeChar member ascii]
    rfl

theorem utf8_ofAscii {b : Bytes} (h : ∀ x ∈ b, x < 0x80) : utf8 (ofAscii b) = b := by
  rw [ofAscii, utf8_ofList, List.flatMap_map]
  induction b with
  | nil => rfl
  | cons x b ih =>
    obtain ⟨first, others⟩ := List.forall_mem_cons.mp h
    rw [List.flatMap_cons, utf8EncodeChar_ofNat first, ih others]
    rfl

/-! ### Reading -/

theorem ofUtf8?_utf8 (s : String) : ofUtf8? (utf8 s) = some s := by
  -- the bytes of a text carry the proof that they are well formed
  have valid : ByteArray.IsValidUTF8 ⟨(utf8 s).toArray⟩ := s.isValidUTF8
  unfold ofUtf8? String.fromUTF8?
  rw [dif_pos valid]
  rfl

theorem ofUtf8?_eq_some_iff {b : Bytes} {s : String} : ofUtf8? b = some s ↔ utf8 s = b := by
  constructor
  · intro decoded
    unfold ofUtf8? String.fromUTF8? at decoded
    split at decoded
    · cases decoded
      rfl
    · cases decoded
  · rintro rfl
    exact ofUtf8?_utf8 s

/-- No two texts have the same bytes. -/
theorem utf8_inj {s t : String} : utf8 s = utf8 t ↔ s = t := by
  rw [← ofUtf8?_eq_some_iff, ofUtf8?_utf8, Option.some.injEq, eq_comm]

theorem headChar?_append (c : Char) (rest : Bytes) :
    headChar? (String.utf8EncodeChar c ++ rest) = some c := by
  -- the window of four bytes holds the whole character
  have whole : (String.utf8EncodeChar c).length ≤ 4 := by
    rw [String.length_utf8EncodeChar]
    exact c.utf8Size_le_four
  have window : (String.utf8EncodeChar c ++ rest).take 4 =
      String.utf8EncodeChar c ++ rest.take (4 - (String.utf8EncodeChar c).length) := by
    rw [List.take_append, List.take_of_length_le whole]
  have bytes : (⟨((String.utf8EncodeChar c ++ rest).take 4).toArray⟩ : ByteArray) =
      (String.utf8EncodeChar c).toByteArray ++
        (rest.take (4 - (String.utf8EncodeChar c).length)).toByteArray := by
    rw [window, ByteArray.ext_iff, ByteArray.data_append, List.data_toByteArray,
      List.data_toByteArray, List.append_toArray]
  rw [headChar?, bytes]
  exact ByteArray.utf8DecodeChar?_utf8EncodeChar_append

/-- Replacement does not set in before a whole character. -/
theorem lossyChars_append (c : Char) (rest : Bytes) :
    lossyChars (String.utf8EncodeChar c ++ rest) = c :: lossyChars rest := by
  have written : String.utf8EncodeChar c ≠ [] := String.utf8EncodeChar_ne_nil
  have left : (String.utf8EncodeChar c ++ rest).drop c.utf8Size = rest :=
    List.drop_left' (String.length_utf8EncodeChar c)
  rw [lossyChars, if_neg (List.append_ne_nil_of_left_ne_nil written rest), headChar?_append]
  simp only [left]

/-- Reading with replacement gives a text back: its bytes begin with a whole character as long as
there are any. -/
theorem ofUtf8Lossy_utf8 (s : String) : ofUtf8Lossy (utf8 s) = s := by
  have read : ∀ chars : List Char, lossyChars (chars.flatMap String.utf8EncodeChar) = chars := by
    intro chars
    induction chars with
    | nil =>
      rw [List.flatMap_nil, lossyChars]
      rfl
    | cons c chars ih => rw [List.flatMap_cons, lossyChars_append, ih]
  rw [ofUtf8Lossy, utf8_eq_flatMap_toList, read, String.ofList_toList]

end SealedLink.Text
