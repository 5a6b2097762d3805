import SealedLink.Cipher.Aes

/-!
# Encryption and decryption of a block undo each other

Every layer of a round has its inverse: the substitution by a second table, the turning of rows by
turning back, the mixing of columns because it is linear and undone on columns with a single byte,
and the adding of a round key by itself. The rounds are then undone one by one, the last one first.

The mixing of columns and its inverse are two maps of one kind, whose matrix is given by its first
row. Maps of this kind commute, so it is enough that the one undoes the other.

## Main definitions

* `Aes.times` — the product of a byte with a factor, a sum of iterated doublings
* `Aes.mixWith` — the map of columns with the given factors in the first row of its matrix

## Main results

* `Aes.mixWith_xor`, `Aes.mixWith_comm` — such maps are linear and commute
* `Aes.unmixColumn_mixColumn`, `Aes.mixColumn_unmixColumn` — the mixing of columns is undone
* `Aes.unround_round`, `Aes.round_unround` — a round is undone
* `Aes.KeySchedule.decrypt_encrypt`, `Aes.KeySchedule.encrypt_decrypt` — a block is encrypted and
  decrypted back, under any round keys
-/

namespace SealedLink

/-! ### Exclusive or -/

namespace Column

theorem xor_xor_cancel_right (x y : Column) : (x.xor y).xor y = x := by
  simp only [xor, UInt8.xor_assoc, UInt8.xor_self, UInt8.xor_zero]

theorem map_map_cancel {f g : UInt8 → UInt8} (h : ∀ b, f (g b) = b) (x : Column) :
    (x.map g).map f = x := by
  simp only [map, h]

end Column

namespace Block

theorem xor_xor_cancel_right (x y : Block) : (x.xor y).xor y = x := by
  simp only [xor, Column.xor_xor_cancel_right]

theorem map_map_cancel {f g : Column → Column} (h : ∀ x, f (g x) = x) (x : Block) :
    (x.map g).map f = x := by
  simp only [map, h]

end Block

namespace Aes

/-! ### The substitution -/

/-- Looking up in two tables in turn gives the byte back, if the second table holds at the places
that the first one names their numbers in order. -/
theorem getD_getD_cancel {first second : List UInt8}
    (h : first.map (fun b => second.getD b.toNat 0) = (List.range 256).map UInt8.ofNat)
    (b : UInt8) : second.getD (first.getD b.toNat 0).toNat 0 = b := by
  have size : first.length = 256 := by simpa using congrArg List.length h
  have inside : b.toNat < first.length := by
    rw [size]
    exact b.toNat_lt
  have place : (first.map fun b => second.getD b.toNat 0)[b.toNat]? =
      ((List.range 256).map UInt8.ofNat)[b.toNat]? := by
    rw [h]
  rw [List.getElem?_map, List.getElem?_map, List.getElem?_range b.toNat_lt,
    List.getElem?_eq_getElem inside] at place
  simp only [Option.map_some, Option.some.injEq, UInt8.ofNat_toNat] at place
  have found : first.getD b.toNat 0 = first[b.toNat] := by
    rw [List.getD_eq_getElem?_getD, List.getElem?_eq_getElem inside, Option.getD_some]
  rw [found]
  exact place

theorem sbox_eq (b : UInt8) : sbox b = sboxTable.toList.getD b.toNat 0 := by
  rw [sbox, Array.getD_eq_getD_getElem?, List.getD_eq_getElem?_getD, Array.getElem?_toList]

theorem inverseSbox_eq (b : UInt8) : inverseSbox b = inverseSboxTable.toList.getD b.toNat 0 := by
  rw [inverseSbox, Array.getD_eq_getD_getElem?, List.getD_eq_getElem?_getD, Array.getElem?_toList]

theorem inverseSbox_sbox (b : UInt8) : inverseSbox (sbox b) = b := by
  rw [inverseSbox_eq, sbox_eq]
  exact getD_getD_cancel (by decide +kernel) b

theorem sbox_inverseSbox (b : UInt8) : sbox (inverseSbox b) = b := by
  rw [sbox_eq, inverseSbox_eq]
  exact getD_getD_cancel (by decide +kernel) b

/-! ### The mixing of columns -/

theorem xor_left_comm (a b c : UInt8) : a ^^^ (b ^^^ c) = b ^^^ (a ^^^ c) := by
  rw [← UInt8.xor_assoc, UInt8.xor_comm a b, UInt8.xor_assoc]

theorem xor_xor_cancel_left (a b : UInt8) : a ^^^ (a ^^^ b) = b := by
  rw [← UInt8.xor_assoc, UInt8.xor_self, UInt8.zero_xor]

theorem le_iff_msb (b : UInt8) : 0x80 ≤ b ↔ b.toBitVec.msb = true := by
  rw [BitVec.msb_eq_decide, decide_eq_true_eq]
  exact UInt8.le_iff_toNat_le

/-- Doubling is linear: the highest bit, which decides about the reduction, is. -/
theorem double_xor (a b : UInt8) : double (a ^^^ b) = double a ^^^ double b := by
  simp only [double, le_iff_msb, UInt8.toBitVec_xor, BitVec.msb_xor, UInt8.shiftLeft_xor]
  cases a.toBitVec.msb <;> cases b.toBitVec.msb <;>
    simp [UInt8.xor_assoc, UInt8.xor_comm, xor_left_comm]

theorem double_zero : double 0 = 0 := by decide

/-- The product of a byte with a factor: a sum of iterated doublings. The factor is given by its
bits, the lowest one first. -/
def times : (factor : List Bool) → UInt8 → UInt8
  | [], _ => 0
  | bit :: factor, b => (if bit then b else 0) ^^^ times factor (double b)

/-- Products are linear, whatever the factor. -/
theorem times_xor (factor : List Bool) (a b : UInt8) :
    times factor (a ^^^ b) = times factor a ^^^ times factor b := by
  induction factor generalizing a b with
  | nil => exact UInt8.xor_self.symm
  | cons bit factor ih =>
    simp only [times, double_xor, ih]
    cases bit <;> simp only [if_true, Bool.false_eq_true, if_false, UInt8.zero_xor,
      UInt8.xor_assoc, xor_left_comm]

theorem times_zero (factor : List Bool) : times factor 0 = 0 := by
  induction factor with
  | nil => rfl
  | cons bit factor ih => simp only [times, double_zero, ih, ite_self, UInt8.xor_self]

theorem times_double (factor : List Bool) (b : UInt8) :
    times factor (double b) = double (times factor b) := by
  induction factor generalizing b with
  | nil => exact double_zero.symm
  | cons bit factor ih =>
    simp only [times, double_xor, ih]
    cases bit <;> simp only [if_true, Bool.false_eq_true, if_false, double_zero]

/-- The order of two factors does not matter. -/
theorem times_comm (factor factor' : List Bool) (b : UInt8) :
    times factor (times factor' b) = times factor' (times factor b) := by
  induction factor generalizing b with
  | nil => exact (times_zero factor').symm
  | cons bit factor ih =>
    simp only [times, times_xor, ← times_double, ih]
    cases bit <;> simp only [if_true, Bool.false_eq_true, if_false, times_zero]

/-- The map of columns whose matrix has the given factors in its first row; each row below is the
one above it, turned right by one place. -/
def mixWith (p q r s : List Bool) (x : Column) : Column :=
  ⟨times p x.r0 ^^^ times q x.r1 ^^^ times r x.r2 ^^^ times s x.r3,
    times s x.r0 ^^^ times p x.r1 ^^^ times q x.r2 ^^^ times r x.r3,
    times r x.r0 ^^^ times s x.r1 ^^^ times p x.r2 ^^^ times q x.r3,
    times q x.r0 ^^^ times r x.r1 ^^^ times s x.r2 ^^^ times p x.r3⟩

theorem mixWith_xor (p q r s : List Bool) (x y : Column) :
    mixWith p q r s (x.xor y) = (mixWith p q r s x).xor (mixWith p q r s y) := by
  simp only [mixWith, Column.xor, times_xor, UInt8.xor_assoc, UInt8.xor_comm, xor_left_comm]

/-- Two maps of this kind may be applied in either order. -/
theorem mixWith_comm (p q r s p' q' r' s' : List Bool) (x : Column) :
    mixWith p q r s (mixWith p' q' r' s' x) = mixWith p' q' r' s' (mixWith p q r s x) := by
  simp only [mixWith, times_xor, times_comm p, times_comm q, times_comm r, times_comm s]
  congr 1 <;> ac_rfl

/-- The first row of the mixing: two, three, one, one. -/
theorem mixColumn_eq_mixWith :
    mixColumn = mixWith [false, true] [true, true] [true] [true] := by
  funext x
  simp [mixColumn, mixWith, times, triple, UInt8.xor_comm]

/-- The first row of its inverse: fourteen, eleven, thirteen, nine. -/
theorem unmixColumn_eq_mixWith :
    unmixColumn = mixWith [false, true, true, true] [true, true, false, true]
      [true, false, true, true] [true, false, false, true] := by
  funext x
  simp [unmixColumn, mixWith, times, times9, times11, times13, times14, UInt8.xor_comm]

/-- A linear map of columns that keeps those with a single byte keeps every column. -/
theorem eq_self_of_single {f : Column → Column} (linear : ∀ x y, f (x.xor y) = (f x).xor (f y))
    (h0 : ∀ b, f ⟨b, 0, 0, 0⟩ = ⟨b, 0, 0, 0⟩) (h1 : ∀ b, f ⟨0, b, 0, 0⟩ = ⟨0, b, 0, 0⟩)
    (h2 : ∀ b, f ⟨0, 0, b, 0⟩ = ⟨0, 0, b, 0⟩) (h3 : ∀ b, f ⟨0, 0, 0, b⟩ = ⟨0, 0, 0, b⟩)
    (x : Column) : f x = x := by
  have sum : x = ((Column.mk x.r0 0 0 0).xor ⟨0, x.r1, 0, 0⟩).xor
      ((Column.mk 0 0 x.r2 0).xor ⟨0, 0, 0, x.r3⟩) := by
    simp only [Column.xor, UInt8.xor_zero, UInt8.zero_xor]
  calc f x
    _ = ((f ⟨x.r0, 0, 0, 0⟩).xor (f ⟨0, x.r1, 0, 0⟩)).xor
        ((f ⟨0, 0, x.r2, 0⟩).xor (f ⟨0, 0, 0, x.r3⟩)) := by
      rw [← linear, ← linear, ← linear, ← sum]
    _ = x := by
      rw [h0, h1, h2, h3, ← sum]

theorem unmixColumn_mixColumn (x : Column) : unmixColumn (mixColumn x) = x := by
  refine eq_self_of_single (f := fun x => unmixColumn (mixColumn x)) ?_ ?_ ?_ ?_ ?_ x
  · intro x y
    simp only [mixColumn_eq_mixWith, unmixColumn_eq_mixWith, mixWith_xor]
  -- on a single byte both maps are polynomials in doubling, and their products cancel
  all_goals
    intro b
    simp only [mixColumn, unmixColumn, triple, times9, times11, times13, times14, double_xor,
      double_zero, UInt8.xor_zero, UInt8.zero_xor, UInt8.xor_assoc, UInt8.xor_comm, xor_left_comm,
      xor_xor_cancel_left, UInt8.xor_self]

theorem mixColumn_unmixColumn (x : Column) : mixColumn (unmixColumn x) = x := by
  calc mixColumn (unmixColumn x)
    _ = unmixColumn (mixColumn x) := by
      rw [mixColumn_eq_mixWith, unmixColumn_eq_mixWith, mixWith_comm]
    _ = x := unmixColumn_mixColumn x

/-! ### Rounds -/

theorem unshiftRows_shiftRows (x : Block) : unshiftRows (shiftRows x) = x := rfl

theorem shiftRows_unshiftRows (x : Block) : shiftRows (unshiftRows x) = x := rfl

theorem unscramble_scramble (x : Block) : unscramble (scramble x) = x := by
  rw [unscramble, scramble, unshiftRows_shiftRows,
    Block.map_map_cancel (Column.map_map_cancel inverseSbox_sbox)]

theorem scramble_unscramble (x : Block) : scramble (unscramble x) = x := by
  rw [scramble, unscramble, Block.map_map_cancel (Column.map_map_cancel sbox_inverseSbox),
    shiftRows_unshiftRows]

theorem unround_round (key x : Block) : unround key (round key x) = x := by
  rw [unround, round, Block.xor_xor_cancel_right, Block.map_map_cancel unmixColumn_mixColumn,
    unscramble_scramble]

theorem round_unround (key x : Block) : round key (unround key x) = x := by
  rw [round, unround, scramble_unscramble, Block.map_map_cancel mixColumn_unmixColumn,
    Block.xor_xor_cancel_right]

theorem foldr_unround_foldl_round (keys : List Block) (x : Block) :
    keys.foldr unround (keys.foldl (fun x key => round key x) x) = x := by
  induction keys generalizing x with
  | nil => rfl
  | cons key keys ih => rw [List.foldl_cons, List.foldr_cons, ih, unround_round]

theorem foldl_round_foldr_unround (keys : List Block) (x : Block) :
    keys.foldl (fun x key => round key x) (keys.foldr unround x) = x := by
  induction keys with
  | nil => rfl
  | cons key keys ih => rw [List.foldr_cons, List.foldl_cons, round_unround, ih]

namespace KeySchedule

/-- Decryption undoes encryption. -/
theorem decrypt_encrypt (keys : KeySchedule) (x : Block) : keys.decrypt (keys.encrypt x) = x := by
  rw [decrypt, encrypt, Block.xor_xor_cancel_right, unscramble_scramble, foldr_unround_foldl_round,
    Block.xor_xor_cancel_right]

/-- Encryption undoes decryption. -/
theorem encrypt_decrypt (keys : KeySchedule) (x : Block) : keys.encrypt (keys.decrypt x) = x := by
  rw [encrypt, decrypt, Block.xor_xor_cancel_right, foldl_round_foldr_unround, scramble_unscramble,
    Block.xor_xor_cancel_right]

end KeySchedule

end Aes

end SealedLink
