import SealedLink.OneTimeSignature
import SealedLink.Proofs.Failure
import SealedLink.Proofs.Time.Binary

/-!
# Stamped data is packed and taken apart

Packed bytes are a word for the timestamp, a nonce, and the data, at fixed places. They are taken
apart if both fields are there and the word is one of those that are read. Packed again they are the
same bytes but for the bit of universal time, which is set if it was not.

## Main definitions

* `StampedData.timestampWord` — the word at the front of packed bytes

## Main results

* `StampedData.unpack_pack` — what is packed is taken apart again
* `StampedData.unpack_of_lt`, `StampedData.unpack_of_le` — short bytes, and the parts of others
* `StampedData.pack_of_unpack` — what is taken apart is packed again up to one bit
* `StampedData.packing_laws` — all of it, with the laws of the word
-/

namespace SealedLink.StampedData

variable {packed : Bytes} {content : StampedData}

/-- The word at the front of packed bytes, its least significant byte first. -/
def timestampWord (packed : Bytes) : UInt64 := UInt64.ofNat (Bytes.toNatLE (packed.take 8))

theorem unpack_pack (content : StampedData) : unpack content.pack = .ok content := by
  obtain ⟨word, bytes⟩ : ∃ word : Octets timestampSize,
      word.toBytes = Bytes.ofNatLE timestampSize content.timestamp.toBinary.toNat :=
    ⟨⟨_, Bytes.length_ofNatLE _ _⟩, rfl⟩
  -- the eight bytes hold the whole word, so nothing is cut off
  have read : UInt64.ofNat (Bytes.toNatLE word.toBytes) = content.timestamp.toBinary := by
    have fits : content.timestamp.toBinary.toNat < 256 ^ timestampSize :=
      content.timestamp.toBinary.toNat_lt
    rw [bytes, Bytes.toNatLE_ofNatLE, Nat.mod_eq_of_lt fits, UInt64.ofNat_toNat]
  have nonce : Octets.split? nonceSize (content.nonce.toBytes ++ content.data) =
      some (content.nonce, content.data) := Octets.split?_append content.nonce content.data
  rw [pack, ← bytes]
  simp only [unpack, Octets.split?_append, nonce, read, Timestamp.ofBinary_toBinary]

/-! ### Parts -/

/-- The rest of short bytes has no room for the timestamp or none for the nonce; the error is the
same. -/
theorem unpack_of_lt (h : packed.length < 40) :
    unpack packed = .error (tooShort packed.length) := by
  unfold unpack
  by_cases word : 8 ≤ packed.length
  · obtain ⟨binary, -, split⟩ := Octets.exists_split? (n := timestampSize) word
    have short : Octets.split? nonceSize (packed.drop timestampSize) = none := by
      rw [Octets.split?_eq_none_iff, List.length_drop]
      change packed.length - 8 < 32
      omega
    simp only [split, short]
  · have short : Octets.split? timestampSize packed = none :=
      Octets.split?_eq_none_iff.mpr (Nat.not_le.mp word)
    simp only [short]

/-- Bytes that are not short are taken apart at fixed places; only the timestamp can still be wrong.
-/
theorem unpack_of_le (h : 40 ≤ packed.length) :
    ∃ nonce : Nonce, nonce.toBytes = (packed.drop 8).take 32 ∧
      unpack packed = (Timestamp.ofBinary (timestampWord packed)).map fun timestamp =>
        ⟨timestamp, nonce, packed.drop 40⟩ := by
  obtain ⟨binary, word, split⟩ := Octets.exists_split? (n := 8) (b := packed) (by omega)
  obtain ⟨nonce, unique, split'⟩ := Octets.exists_split? (n := 32) (b := packed.drop 8)
    (by rw [List.length_drop]; omega)
  rw [List.drop_drop] at split'
  refine ⟨nonce, unique, ?_⟩
  unfold unpack
  simp only [timestampSize, nonceSize, split, split', word]
  rw [← timestampWord]
  cases Timestamp.ofBinary (timestampWord packed) <;> rfl

theorem unpack_eq_ok_iff :
    unpack packed = .ok content ↔
      40 ≤ packed.length ∧ Timestamp.ofBinary (timestampWord packed) = .ok content.timestamp ∧
        content.nonce.toBytes = (packed.drop 8).take 32 ∧ content.data = packed.drop 40 := by
  by_cases long : 40 ≤ packed.length
  · obtain ⟨nonce, unique, parts⟩ := unpack_of_le long
    rw [parts, ← unique, map_eq_ok_iff]
    constructor
    · rintro ⟨timestamp, read, rfl⟩
      exact ⟨long, read, rfl, rfl⟩
    · rintro ⟨-, read, same, data⟩
      refine ⟨_, read, ?_⟩
      rw [← Octets.ext same, ← data]
  · simp [unpack_of_lt (Nat.not_le.mp long), long]

theorem exists_unpack_iff :
    (∃ content, unpack packed = .ok content) ↔
      40 ≤ packed.length ∧ ∃ t, Timestamp.ofBinary (timestampWord packed) = .ok t := by
  constructor
  · rintro ⟨content, unpacked⟩
    obtain ⟨long, read, -⟩ := unpack_eq_ok_iff.mp unpacked
    exact ⟨long, _, read⟩
  · rintro ⟨long, timestamp, read⟩
    obtain ⟨nonce, -, parts⟩ := unpack_of_le long
    rw [read] at parts
    exact ⟨_, parts⟩

/-! ### Packing again -/

theorem toNat_timestampWord (h : 8 ≤ packed.length) :
    (timestampWord packed).toNat = Bytes.toNatLE (packed.take 8) := by
  have fits : Bytes.toNatLE (packed.take 8) < 2 ^ 64 := by
    have bound := Bytes.toNatLE_lt (packed.take 8)
    rw [List.length_take_of_le h] at bound
    exact bound
  rw [timestampWord, UInt64.toNat_ofNat', Nat.mod_eq_of_lt fits]

/-- The bit of universal time is in the last byte of the word. -/
theorem pack_of_unpack (h : unpack packed = .ok content) :
    content.pack = packed.modify 7 (· ||| 0x40) := by
  obtain ⟨long, read, nonce, data⟩ := unpack_eq_ok_iff.mp h
  have written : content.timestamp.toBinary.toNat =
      Bytes.toNatLE (packed.take 8) ||| (0x40 : UInt8).toNat <<< (8 * 7) := by
    rw [Timestamp.toBinary_of_ofBinary read, UInt64.toNat_or, toNat_timestampWord (by omega)]
    rfl
  have behind : content.nonce.toBytes ++ content.data = packed.drop 8 := by
    have rest : packed.drop 40 = (packed.drop 8).drop 32 := by rw [List.drop_drop]
    rw [nonce, data, rest, List.take_append_drop]
  rw [pack, written, behind]
  exact Bytes.ofNatLE_or_append_drop (by omega) 0x40

/-- **Packing is undone by unpacking, and the other way round up to the kind of time.** A signed
number is read as a timestamp if it is not negative and its low 62 bits are ticks in range. What is
written is read back, and what is read is written again with bit 62, which changes the numbers of
unspecified kind only. Packed data is taken apart again. Bytes are taken apart if they have room for
timestamp and nonce and begin with such a number, and packed again they differ in that bit at most,
bit 6 of byte 7. -/
theorem packing_laws :
    (∀ raw : Int64, (∃ t, Timestamp.ofBinary raw.toUInt64 = .ok t) ↔
      0 ≤ raw ∧ raw.toUInt64 &&& 0x3fffffffffffffff ≤ 3155378975999999999) ∧
    (∀ t, Timestamp.ofBinary t.toBinary = .ok t) ∧
    (∀ (raw : Int64) t, Timestamp.ofBinary raw.toUInt64 = .ok t →
      t.toBinary.toInt64 = raw ||| 0x4000000000000000 ∧
        (t.toBinary.toInt64 ≠ raw ↔ raw.toUInt64 >>> 62 = 0)) ∧
    (∀ content, unpack (pack content) = .ok content) ∧
    (∀ packed, (∃ content, unpack packed = .ok content) ↔
      40 ≤ packed.length ∧ 0 ≤ (timestampWord packed).toInt64 ∧
        timestampWord packed &&& 0x3fffffffffffffff ≤ 3155378975999999999) ∧
    ∀ packed content, unpack packed = .ok content →
      content.pack = packed.modify 7 (· ||| 0x40) := by
  refine ⟨fun _ => Timestamp.exists_ofBinary_iff, Timestamp.ofBinary_toBinary, ?_, unpack_pack, ?_,
    fun _ _ => pack_of_unpack⟩
  · intro raw t read
    have written := Timestamp.toBinary_of_ofBinary read
    -- the same bits are read with and without a sign
    have same : t.toBinary.toInt64 = raw ↔ t.toBinary = raw.toUInt64 :=
      ⟨fun numbers => congrArg Int64.toUInt64 numbers, fun words => congrArg UInt64.toInt64 words⟩
    refine ⟨?_, same.not.trans (Timestamp.toBinary_ne_iff read)⟩
    rw [written]
    rfl
  · intro packed
    rw [exists_unpack_iff]
    change 40 ≤ packed.length ∧
      (∃ t, Timestamp.ofBinary (timestampWord packed).toInt64.toUInt64 = .ok t) ↔ _
    rw [Timestamp.exists_ofBinary_iff]
    rfl

/-- The last tick of the year 9999, of unspecified kind, with a nonce and one byte of data: it is
read, and gets the bit of universal time when it is packed again. -/
theorem unspecified_kind_is_rewritten :
    ∃ content,
      unpack ([0xff, 0x3f, 0x37, 0xf4, 0x75, 0x28, 0xca, 0x2b] ++ (List.replicate 32 7 ++ [5])) =
        .ok content ∧
      content.timestamp.ticks = 3155378975999999999 ∧
      content.pack =
        [0xff, 0x3f, 0x37, 0xf4, 0x75, 0x28, 0xca, 0x6b] ++ (List.replicate 32 7 ++ [5]) ∧
      content.timestamp.toBinary.toInt64 = 3155378975999999999 ||| 0x4000000000000000 := by
  obtain ⟨-, -, number, -, -, again⟩ := packing_laws
  obtain ⟨content, read, ticks⟩ : ∃ content,
      unpack ([0xff, 0x3f, 0x37, 0xf4, 0x75, 0x28, 0xca, 0x2b] ++ (List.replicate 32 7 ++ [5])) =
        .ok content ∧ content.timestamp = ⟨3155378975999999999, by decide⟩ :=
    ⟨⟨⟨3155378975999999999, by decide⟩, ⟨List.replicate 32 7, rfl⟩, [5]⟩, by decide +kernel, rfl⟩
  refine ⟨content, read, by rw [ticks], again _ _ read, ?_⟩
  have word :
      Timestamp.ofBinary (3155378975999999999 : Int64).toUInt64 = .ok content.timestamp := by
    rw [ticks]
    decide +kernel
  exact (number _ _ word).1

end SealedLink.StampedData
