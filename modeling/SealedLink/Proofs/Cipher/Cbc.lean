import SealedLink.Cipher.Cbc
import SealedLink.Proofs.Bytes
import SealedLink.Proofs.Cipher.Aes
import SealedLink.Proofs.Cipher.Gcm
import SealedLink.Proofs.Cipher.Rounds
import SealedLink.Proofs.Failure

/-!
# Cipher block chaining is inverted in both directions

A padded text consists of whole blocks, and blocks and whole-block texts are the same thing. Chaining
and unchaining undo each other as long as the two block functions do, and the padding of a text is
the only ending that stands for the text. So a ciphertext that decrypts is the encryption of what it
decrypts to, and no other ciphertext is. The initial vector is no part of this: it can be exchanged,
and the first block of the text changes with it.

## Main results

* `Block.list_bytes`, `Block.bytes_list` — blocks are read back from their bytes, and whole-block
  texts are written again from their blocks
* `Padding.remove?_add`, `Padding.add_of_remove?` — padding is removed, and what was removed is put
  back
* `Cbc.unchain_chain`, `Cbc.chain_unchain` — the mode on blocks is inverted
* `Cbc.decrypt_eq_ok_iff_encrypt` — a ciphertext decrypts to a text exactly if the text encrypts to
  it
* `Cbc.exists_encrypt` — every text is encrypted if key and initial vector have admitted lengths
* `Cbc.decrypt_eq_error_of_admitted` — with admitted lengths only the ciphertext is at fault
* `Cbc.decrypt_of_vector` — what a ciphertext decrypts to under another initial vector
-/

namespace SealedLink

/-! ### Blocks and their bytes -/

namespace Block

theorem columns_toBytes_append (x : Block) (rest : Bytes) :
    columns (x.toBytes ++ rest) = x.c0 :: x.c1 :: x.c2 :: x.c3 :: columns rest := rfl

theorem list_toBytes_append (x : Block) (rest : Bytes) :
    list (x.toBytes ++ rest) = x :: list rest := by
  rw [list, columns_toBytes_append, ofColumns]
  rfl

theorem list_bytes (blocks : List Block) : list (bytes blocks) = blocks := by
  induction blocks with
  | nil => rfl
  | cons x blocks ih =>
    change list (x.toBytes ++ bytes blocks) = x :: blocks
    rw [list_toBytes_append, ih]

theorem flatMap_toBytes_columns {b : Bytes} (h : b.length % 4 = 0) :
    (columns b).flatMap Column.toBytes = b := by
  induction b using columns.induct with
  | case1 a b c d rest ih =>
    have whole : rest.length % 4 = 0 := by
      simp only [List.length_cons] at h
      omega
    rw [columns, List.flatMap_cons, ih whole]
    rfl
  | case2 b short =>
    rcases b with _ | ⟨a, _ | ⟨b, _ | ⟨c, _ | ⟨d, rest⟩⟩⟩⟩
    · rfl
    · simp at h
    · simp at h
    · simp at h
    · exact absurd rfl (short a b c d rest)

theorem bytes_ofColumns {x : List Column} (h : x.length % 4 = 0) :
    bytes (ofColumns x) = x.flatMap Column.toBytes := by
  induction x using ofColumns.induct with
  | case1 a b c d rest ih =>
    have whole : rest.length % 4 = 0 := by
      simp only [List.length_cons] at h
      omega
    rw [ofColumns, bytes, List.flatMap_cons, ← bytes, ih whole]
    simp only [List.flatMap_cons, toBytes, List.append_assoc]
  | case2 x short =>
    rcases x with _ | ⟨a, _ | ⟨b, _ | ⟨c, _ | ⟨d, rest⟩⟩⟩⟩
    · rfl
    · simp at h
    · simp at h
    · simp at h
    · exact absurd rfl (short a b c d rest)

theorem bytes_list {b : Bytes} (h : b.length % 16 = 0) : bytes (list b) = b := by
  have columns : (columns b).length % 4 = 0 := by
    rw [length_columns]
    omega
  rw [list, bytes_ofColumns columns, flatMap_toBytes_columns (by omega)]

theorem toBytes_ofBytes {b : Bytes} (h : b.length = 16) : (ofBytes b).toBytes = b := by
  have back := bytes_list (b := b) (by omega)
  rw [ofBytes]
  cases blocks : list b with
  | nil =>
    rw [blocks] at back
    rw [← back] at h
    cases h
  | cons x rest =>
    rw [blocks, bytes, List.flatMap_cons] at back
    calc x.toBytes
      _ = b.take 16 := by rw [← back, List.take_left' x.length_toBytes]
      _ = b := List.take_of_length_le (Nat.le_of_eq h)

theorem toBytes_xor (x y : Block) : (x.xor y).toBytes = Bytes.xor x.toBytes y.toBytes := rfl

end Block

/-! ### Padding -/

namespace Padding

theorem length_add (b : Bytes) : (add b).length = 16 * (b.length / 16 + 1) := by
  rw [add, List.length_append, List.length_replicate]
  omega

/-- Only what is left over behind whole blocks is filled up. -/
theorem add_append {front : Bytes} (h : front.length = 16) (rest : Bytes) :
    add (front ++ rest) = front ++ add rest := by
  have left : (front ++ rest).length % 16 = rest.length % 16 := by
    rw [List.length_append]
    omega
  rw [add, left, List.append_assoc, add]

/-- A text that ends in padding is another text and the padding: as many copies of a byte as the
byte tells, at least one and at most a block. -/
theorem remove?_eq_some_iff {b text : Bytes} :
    remove? b = some text ↔ ∃ last : UInt8, 1 ≤ last.toNat ∧ last.toNat ≤ 16 ∧
      b = text ++ List.replicate last.toNat last := by
  constructor
  · intro h
    unfold remove? at h
    split at h
    · cases h
    · rename_i last _
      dsimp only at h
      split at h
      · rename_i ending
        obtain ⟨positive, small, inside, same⟩ := ending
        cases h
        have cut : b.drop (b.length - last.toNat) = List.replicate last.toNat last := by
          rw [List.eq_replicate_iff]
          constructor
          · rw [List.length_drop]
            omega
          · intro x member
            exact eq_of_beq (List.all_eq_true.mp same x member)
        refine ⟨last, positive, small, ?_⟩
        rw [← cut, List.take_append_drop]
      · cases h
  · rintro ⟨last, positive, small, rfl⟩
    have ending : (text ++ List.replicate last.toNat last).getLast? = some last := by
      rw [List.getLast?_append, List.getLast?_replicate, if_neg (by omega)]
      rfl
    have kept : (text ++ List.replicate last.toNat last).length - last.toNat = text.length := by
      rw [List.length_append, List.length_replicate, Nat.add_sub_cancel]
    have inside : last.toNat ≤ (text ++ List.replicate last.toNat last).length := by
      rw [List.length_append, List.length_replicate]
      omega
    rw [remove?, ending]
    dsimp only
    rw [kept, List.drop_left, List.take_left, if_pos ⟨positive, small, inside, by simp⟩]

/-- The number of padding bytes, according to the last byte. -/
def count (b : Bytes) : Nat := (b.getLast?.getD 0).toNat

/-- Padding is recognised by its count: there are that many bytes, and all of them tell it. -/
theorem remove?_eq_some_iff_count {b text : Bytes} :
    remove? b = some text ↔
      (1 ≤ count b ∧ count b ≤ 16 ∧ count b ≤ b.length ∧
        ∀ x ∈ b.drop (b.length - count b), x.toNat = count b) ∧
      b.take (b.length - count b) = text := by
  unfold remove? count
  cases b.getLast? with
  | none => simp
  | some last => simp [List.all_eq_true, UInt8.toNat_inj]

/-- The padding of a text is removed again. -/
theorem remove?_add (b : Bytes) : remove? (add b) = some b := by
  have number : (UInt8.ofNat (16 - b.length % 16)).toNat = 16 - b.length % 16 := by
    rw [UInt8.toNat_ofNat']
    omega
  refine remove?_eq_some_iff.mpr ⟨UInt8.ofNat (16 - b.length % 16), ?_, ?_, ?_⟩
  · omega
  · omega
  · rw [number, add]

/-- If a whole-block text ends in padding, it is the padding of what is left without it. -/
theorem add_of_remove? {b text : Bytes} (whole : b.length % 16 = 0) (h : remove? b = some text) :
    add text = b := by
  obtain ⟨last, positive, small, rfl⟩ := remove?_eq_some_iff.mp h
  rw [List.length_append, List.length_replicate] at whole
  -- the bytes that were cut off number `last`, and so does the padding of the others
  have count : 16 - text.length % 16 = last.toNat := by omega
  rw [add, count, UInt8.ofNat_toNat]

end Padding

namespace Cbc

/-! ### The mode on blocks -/

section Chaining

variable {encrypt decrypt : Block → Block}

theorem unchain_chain (h : ∀ x, decrypt (encrypt x) = x) (previous : Block) (xs : List Block) :
    unchain decrypt previous (chain encrypt previous xs) = xs := by
  induction xs generalizing previous with
  | nil => rfl
  | cons x xs ih =>
    simp only [chain, unchain, h, ih, Block.xor_xor_cancel_right]

theorem chain_unchain (h : ∀ y, encrypt (decrypt y) = y) (previous : Block) (ys : List Block) :
    chain encrypt previous (unchain decrypt previous ys) = ys := by
  induction ys generalizing previous with
  | nil => rfl
  | cons y ys ih =>
    simp only [unchain, chain, Block.xor_xor_cancel_right, h, ih]

theorem length_chain (previous : Block) (xs : List Block) :
    (chain encrypt previous xs).length = xs.length := by
  induction xs generalizing previous with
  | nil => rfl
  | cons x xs ih => simp only [chain, List.length_cons, ih]

end Chaining

/-! ### The mode on byte strings -/

variable {key iv plaintext ciphertext : Bytes}

theorem vector_eq_ok_iff {block : Block} :
    vector iv = .ok block ↔ iv.length = blockSize ∧ Block.ofBytes iv = block := by
  unfold vector
  split <;> simp [*]

theorem schedule_eq_ok_iff {keys : Aes.KeySchedule} :
    schedule key = .ok keys ↔ Aes.KeySchedule.ofKey? key = some keys := by
  unfold schedule
  cases Aes.KeySchedule.ofKey? key <;> simp

theorem encrypt_eq_ok_iff :
    encrypt key iv plaintext = .ok ciphertext ↔
      ∃ keys, iv.length = blockSize ∧ Aes.KeySchedule.ofKey? key = some keys ∧
        Block.bytes (chain keys.encrypt (Block.ofBytes iv) (Block.list (Padding.add plaintext))) =
          ciphertext := by
  simp only [encrypt, bind_eq_ok_iff, vector_eq_ok_iff, schedule_eq_ok_iff]
  constructor
  · rintro ⟨_, ⟨size, rfl⟩, keys, scheduled, written⟩
    exact ⟨keys, size, scheduled, Except.ok.inj written⟩
  · rintro ⟨keys, size, scheduled, rfl⟩
    exact ⟨_, ⟨size, rfl⟩, keys, scheduled, rfl⟩

theorem decrypt_eq_ok_iff :
    decrypt key iv ciphertext = .ok plaintext ↔
      ∃ keys, iv.length = blockSize ∧ Aes.KeySchedule.ofKey? key = some keys ∧
        ciphertext ≠ [] ∧ ciphertext.length % blockSize = 0 ∧
        Padding.remove? (Block.bytes
          (unchain keys.decrypt (Block.ofBytes iv) (Block.list ciphertext))) = some plaintext := by
  simp only [decrypt, bind_eq_ok_iff, ite_throw_bind_eq_ok_iff, vector_eq_ok_iff,
    schedule_eq_ok_iff, not_or, not_not]
  constructor
  · rintro ⟨_, ⟨size, rfl⟩, ⟨written, whole⟩, keys, scheduled, read⟩
    refine ⟨keys, size, scheduled, written, whole, ?_⟩
    split at read
    · rename_i text removed
      rw [removed, Except.ok.inj read]
    · cases read
  · rintro ⟨keys, size, scheduled, written, whole, removed⟩
    refine ⟨_, ⟨size, rfl⟩, ⟨written, whole⟩, keys, scheduled, ?_⟩
    rw [removed]
    rfl

/-- A ciphertext decrypts to a text exactly if the text encrypts to it, under the same key and
initial vector. -/
theorem decrypt_eq_ok_iff_encrypt :
    decrypt key iv ciphertext = .ok plaintext ↔ encrypt key iv plaintext = .ok ciphertext := by
  rw [decrypt_eq_ok_iff, encrypt_eq_ok_iff]
  refine exists_congr fun keys => and_congr_right fun _ => and_congr_right fun _ => ?_
  constructor
  · rintro ⟨-, whole, removed⟩
    have blocks : (Block.bytes (unchain keys.decrypt (Block.ofBytes iv)
        (Block.list ciphertext))).length % 16 = 0 := by
      rw [Block.length_bytes]
      omega
    rw [Padding.add_of_remove? blocks removed, Block.list_bytes, chain_unchain keys.encrypt_decrypt,
      Block.bytes_list whole]
  · rintro rfl
    have blocks : (Padding.add plaintext).length % 16 = 0 := by
      rw [Padding.length_add]
      omega
    have length : (Block.bytes (chain keys.encrypt (Block.ofBytes iv)
        (Block.list (Padding.add plaintext)))).length = (Padding.add plaintext).length := by
      rw [Block.length_bytes, length_chain, ← Block.length_bytes, Block.bytes_list blocks]
    refine ⟨?_, ?_, ?_⟩
    · apply List.ne_nil_of_length_pos
      rw [length, Padding.length_add]
      omega
    · rw [length]
      exact blocks
    · rw [Block.list_bytes, unchain_chain keys.decrypt_encrypt, Block.bytes_list blocks,
        Padding.remove?_add]

/-- Every text is encrypted under a key and an initial vector of admitted lengths. -/
theorem exists_encrypt (size : iv.length = blockSize)
    (admitted : key.length = 16 ∨ key.length = 24 ∨ key.length = 32) (plaintext : Bytes) :
    ∃ ciphertext, encrypt key iv plaintext = .ok ciphertext := by
  obtain ⟨keys, scheduled⟩ := Aes.KeySchedule.exists_ofKey? admitted
  exact ⟨_, encrypt_eq_ok_iff.mpr ⟨keys, size, scheduled, rfl⟩⟩

/-- With a key and an initial vector of admitted lengths, a ciphertext is refused for its length or
its padding only. -/
theorem decrypt_eq_error_of_admitted {e : CryptoError} (size : iv.length = blockSize)
    (admitted : key.length = 16 ∨ key.length = 24 ∨ key.length = 32)
    (h : decrypt key iv ciphertext = .error e) : ∃ reason, e = .malformed reason := by
  obtain ⟨keys, scheduled⟩ := Aes.KeySchedule.exists_ofKey? admitted
  unfold decrypt vector schedule at h
  simp only [size, if_true, scheduled, bind, Except.bind] at h
  split at h
  · cases h
    exact ⟨_, rfl⟩
  · split at h
    · cases h
    · cases h
      exact ⟨_, rfl⟩

/-! ### Another initial vector -/

/-- Two texts have the same encryption under two initial vectors if the first block of one is that
of the other combined with both vectors, and nothing else is different. -/
theorem encrypt_of_vector {iv' : Bytes} (h : encrypt key iv plaintext = .ok ciphertext)
    (size : iv'.length = blockSize) (long : 16 ≤ plaintext.length) :
    encrypt key iv' (Bytes.xor (Bytes.xor (plaintext.take 16) iv) iv' ++ plaintext.drop 16) =
      .ok ciphertext := by
  obtain ⟨keys, size', scheduled, rfl⟩ := encrypt_eq_ok_iff.mp h
  refine encrypt_eq_ok_iff.mpr ⟨keys, size, scheduled, ?_⟩
  have first : (Block.ofBytes (plaintext.take 16)).toBytes = plaintext.take 16 :=
    Block.toBytes_ofBytes (List.length_take_of_le long)
  have changed : Bytes.xor (Bytes.xor (plaintext.take 16) iv) iv' =
      (((Block.ofBytes (plaintext.take 16)).xor (Block.ofBytes iv)).xor
        (Block.ofBytes iv')).toBytes := by
    rw [Block.toBytes_xor, Block.toBytes_xor, first, Block.toBytes_ofBytes size',
      Block.toBytes_ofBytes size]
  have text : plaintext =
      (Block.ofBytes (plaintext.take 16)).toBytes ++ plaintext.drop 16 := by
    rw [first, List.take_append_drop]
  conv_rhs => rw [text]
  -- what is enciphered first is the same for both, and with it all that follows
  rw [changed, Padding.add_append (Block.length_toBytes _),
    Padding.add_append (Block.length_toBytes _), Block.list_toBytes_append,
    Block.list_toBytes_append, chain, chain, Block.xor_xor_cancel_right]

/-- Whoever exchanges the initial vector chooses a change of the first block and changes nothing
else. The padding stays what it was, so the text still decrypts. -/
theorem decrypt_of_vector {iv' : Bytes} (h : encrypt key iv plaintext = .ok ciphertext)
    (size : iv'.length = blockSize) (long : 16 ≤ plaintext.length) :
    decrypt key iv' ciphertext =
      .ok (Bytes.xor (Bytes.xor (plaintext.take 16) iv) iv' ++ plaintext.drop 16) :=
  decrypt_eq_ok_iff_encrypt.mpr (encrypt_of_vector h size long)

end Cbc

end SealedLink
