import Mathlib.Algebra.Group.Nat.Defs
import Mathlib.Data.Nat.Bitwise
import Mathlib.Logic.Basic
import Mathlib.Tactic.Conv
import SealedLink.Bytes

/-!
# Laws of byte strings

## Main results

* `Octets.split?_eq_some_iff` — what is split off, in terms of `take` and `drop`
* `Bytes.xor_xor_cancel_right`, `Bytes.eq_of_xor_xor_eq` — combining twice changes nothing with the
  same bytes, and with the same bytes only
* `Bytes.toNatLE_ofNatLE`, `Bytes.toNatBE_ofNatBE` — a number that fits is read back from its bytes
* `Bytes.ofNatLE_toNatLE`, `Bytes.ofNatBE_toNatBE` — bytes are those of their number
* `Bytes.ofNatLE_or_append_drop` — bits that are set in a number are set in one of its bytes
-/

namespace SealedLink

namespace Octets

variable {n : Nat}

theorem split?_eq_some_iff {b rest : Bytes} {x : Octets n} :
    split? n b = some (x, rest) ↔ n ≤ b.length ∧ x.toBytes = b.take n ∧ rest = b.drop n := by
  constructor
  · intro h
    obtain rfl := eq_append_of_split? h
    refine ⟨by simp, ?_, ?_⟩
    · exact (List.take_left' x.length_eq).symm
    · exact (List.drop_left' x.length_eq).symm
  · rintro ⟨-, taken, rfl⟩
    have whole : b = x.toBytes ++ b.drop n := by rw [taken, List.take_append_drop]
    -- only the operand is put together again, not the rest that is split off
    conv_lhs => rw [whole]
    exact split?_append x _

theorem exists_split? {b : Bytes} (h : n ≤ b.length) :
    ∃ x : Octets n, x.toBytes = b.take n ∧ split? n b = some (x, b.drop n) :=
  ⟨⟨b.take n, by simp [h]⟩, rfl, split?_eq_some_iff.mpr ⟨h, rfl, rfl⟩⟩

end Octets

namespace Bytes

/-! ### Exclusive or -/

theorem length_xor {x y : Bytes} (h : x.length ≤ y.length) : (xor x y).length = x.length := by
  simp [xor, Nat.min_eq_left h]

theorem xor_xor_cancel_right {x y : Bytes} (h : x.length ≤ y.length) : xor (xor x y) y = x := by
  induction x generalizing y with
  | nil => rfl
  | cons a x ih =>
    cases y with
    | nil => simp at h
    | cons b y =>
      have tails : x.length ≤ y.length := by simpa using h
      have head : a ^^^ b ^^^ b = a := by rw [UInt8.xor_assoc, UInt8.xor_self, UInt8.xor_zero]
      exact congrArg₂ List.cons head (ih tails)

theorem xor_comm (x y : Bytes) : xor x y = xor y x := by
  rw [xor, xor, List.zipWith_comm]
  congr 1
  funext a b
  exact UInt8.xor_comm b a

/-- Two byte strings that leave a text of their length as it is when both are combined with it are
the same. -/
theorem eq_of_xor_xor_eq {x a b : Bytes} (length : a.length = x.length)
    (length' : b.length = x.length) (h : xor (xor x a) b = x) : a = b := by
  have once : xor x a = xor x b := by
    have room : (xor x a).length ≤ b.length := by
      rw [length_xor (Nat.le_of_eq length.symm)]
      exact Nat.le_of_eq length'.symm
    rw [← xor_xor_cancel_right room, h]
  calc a
    _ = xor (xor a x) x := (xor_xor_cancel_right (Nat.le_of_eq length)).symm
    _ = xor (xor b x) x := by rw [xor_comm a x, once, xor_comm x b]
    _ = b := xor_xor_cancel_right (Nat.le_of_eq length')

/-! ### Numbers -/

theorem toNatLE_lt (b : Bytes) : toNatLE b < 256 ^ b.length := by
  induction b with
  | nil => simp [toNatLE]
  | cons a b ih =>
    have low := a.toNat_lt
    simp only [toNatLE, List.length_cons, Nat.pow_succ]
    omega

theorem toNatLE_ofNatLE (n x : Nat) : toNatLE (ofNatLE n x) = x % 256 ^ n := by
  induction n generalizing x with
  | zero => simp [ofNatLE, toNatLE, Nat.mod_one]
  | succ n ih =>
    -- the lowest byte and the other bytes are the two parts of one remainder
    simp only [ofNatLE, toNatLE, ih, UInt8.toNat_ofNat']
    calc x % 2 ^ 8 + 256 * (x / 256 % 256 ^ n)
      _ = x % 256 + 256 * (x / 256 % 256 ^ n) := rfl
      _ = x % (256 * 256 ^ n) := (Nat.mod_mul).symm
      _ = x % 256 ^ (n + 1) := by rw [Nat.pow_succ']

theorem ofNatLE_toNatLE (b : Bytes) : ofNatLE b.length (toNatLE b) = b := by
  induction b with
  | nil => rfl
  | cons a b ih =>
    have low := a.toNat_lt
    have front : UInt8.ofNat (toNatLE (a :: b)) = a := by
      rw [← UInt8.toNat_inj, UInt8.toNat_ofNat', toNatLE]
      omega
    have back : toNatLE (a :: b) / 256 = toNatLE b := by
      rw [toNatLE]
      omega
    rw [List.length_cons, ofNatLE, front, back, ih]

theorem toNatLE_append (x y : Bytes) :
    toNatLE (x ++ y) = toNatLE x + 256 ^ x.length * toNatLE y := by
  induction x with
  | nil => simp [toNatLE]
  | cons a x ih =>
    simp only [List.cons_append, toNatLE, ih, List.length_cons]
    rw [Nat.pow_succ', Nat.mul_add, Nat.mul_assoc, Nat.add_assoc]

/-- Bits that are set in the last byte are set in the number. -/
theorem toNatLE_concat_or (low : Bytes) (top mask : UInt8) :
    toNatLE (low ++ [top ||| mask]) =
      toNatLE (low ++ [top]) ||| mask.toNat <<< (8 * low.length) := by
  have weight : 256 ^ low.length = 2 ^ (8 * low.length) := (Nat.pow_mul 2 8 low.length).symm
  have below : toNatLE low < 2 ^ (8 * low.length) := weight ▸ toNatLE_lt low
  -- the bits of the last byte are above those of the other bytes
  have joined (b : UInt8) :
      toNatLE (low ++ [b]) = b.toNat <<< (8 * low.length) ||| toNatLE low := by
    rw [toNatLE_append, weight, Nat.add_comm, Nat.two_pow_add_eq_or_of_lt below, Nat.mul_comm,
      ← Nat.shiftLeft_eq]
    rfl
  rw [joined, joined, UInt8.toNat_or, Nat.shiftLeft_or_distrib, Nat.or_right_comm]

/-- Bits that are set above the other bytes of a number are set in one byte, and what follows it is
left alone. -/
theorem ofNatLE_or_append_drop {b : Bytes} {i : Nat} (h : i < b.length) (mask : UInt8) :
    ofNatLE (i + 1) (toNatLE (b.take (i + 1)) ||| mask.toNat <<< (8 * i)) ++ b.drop (i + 1) =
      b.modify i (· ||| mask) := by
  have low : (b.take i).length = i := List.length_take_of_le (Nat.le_of_lt h)
  have size : (b.take i ++ [b[i] ||| mask]).length = i + 1 := by simp [low]
  have number := toNatLE_concat_or (b.take i) b[i] mask
  rw [low, ← List.take_succ_eq_append_getElem h] at number
  rw [← number, ← size, ofNatLE_toNatLE, size, List.append_assoc, List.modify_eq_take_cons_drop h]
  rfl

/-- The order of the bytes is all that the two ways of writing a number differ in. -/
theorem toNatBE_reverse (b : Bytes) : toNatBE b.reverse = toNatLE b := by
  induction b with
  | nil => rfl
  | cons a b ih =>
    rw [List.reverse_cons, toNatBE, List.foldl_append, ← toNatBE, ih, toNatLE, Nat.add_comm]
    rfl

theorem toNatBE_lt (b : Bytes) : toNatBE b < 256 ^ b.length := by
  have bound := toNatLE_lt b.reverse
  rw [← toNatBE_reverse, List.reverse_reverse, List.length_reverse] at bound
  exact bound

theorem toNatBE_zero_cons (b : Bytes) : toNatBE (0 :: b) = toNatBE b := rfl

theorem toNatBE_ofNatBE (n x : Nat) : toNatBE (ofNatBE n x) = x % 256 ^ n := by
  rw [ofNatBE, toNatBE_reverse, toNatLE_ofNatLE]

theorem ofNatBE_toNatBE {b : Bytes} {n : Nat} (h : b.length = n) : ofNatBE n (toNatBE b) = b := by
  subst h
  have read := ofNatLE_toNatLE b.reverse
  rw [← toNatBE_reverse, List.reverse_reverse, List.length_reverse] at read
  rw [ofNatBE, read, List.reverse_reverse]

end Bytes

end SealedLink
