import Mathlib.Data.List.TakeWhile
import SealedLink.Proofs.Text.Base64
import SealedLink.Text.Blank

/-!
# Texts without blanks

Trimming takes blanks off both ends of a text, however many there are. It leaves a text alone that
has no blank in it. Written base64 is such a text, and so is a number in decimal digits.

## Main definitions

* `Text.AllBlank` — a text of blanks

## Main results

* `Text.trimBlank_append`, `Text.exists_eq_append_trimBlank` — blanks at the ends do not count, and
  nothing else is taken off
* `Text.trimBlank_of_forall` — trimming a text without blanks
* `Base64.trimBlank_encodeText`, `Text.trimBlank_toString` — written values are such texts
-/

namespace SealedLink

namespace Text

/-- A text of blanks only, or of nothing. -/
def AllBlank (s : String) : Prop := ∀ c ∈ s.toList, isBlank c = true

instance (s : String) : Decidable (AllBlank s) :=
  decidable_of_iff (s.toList.all isBlank = true) List.all_eq_true

theorem dropWhile_isBlank_append {front back : List Char} (h : ∀ c ∈ back, isBlank c = true) :
    ((front ++ back).dropWhile isBlank).reverse.dropWhile isBlank =
      (front.dropWhile isBlank).reverse.dropWhile isBlank := by
  rw [List.dropWhile_append]
  by_cases blank : (front.dropWhile isBlank).isEmpty
  · rw [if_pos blank, List.isEmpty_iff.mp blank, List.dropWhile_eq_nil_iff.mpr h]
  · have blank' : ∀ c ∈ back.reverse, isBlank c = true := fun c member =>
      h c (List.mem_reverse.mp member)
    rw [if_neg blank, List.reverse_append, List.dropWhile_append_of_pos blank']

/-- Blanks at the ends of a text do not count. -/
theorem trimBlank_append {v w : String} (before : AllBlank v) (s : String) (after : AllBlank w) :
    trimBlank (v ++ s ++ w) = trimBlank s := by
  rw [trimBlank, trimBlank, String.toList_append, String.toList_append, List.append_assoc,
    List.dropWhile_append_of_pos before, dropWhile_isBlank_append after]

/-- Nothing but blanks is taken off. -/
theorem exists_eq_append_trimBlank (s : String) :
    ∃ v w, AllBlank v ∧ AllBlank w ∧ s = v ++ trimBlank s ++ w := by
  let rest := s.toList.dropWhile isBlank
  refine ⟨String.ofList (s.toList.takeWhile isBlank),
    String.ofList (rest.reverse.takeWhile isBlank).reverse, ?_, ?_, ?_⟩
  · intro c member
    rw [String.toList_ofList] at member
    exact List.mem_takeWhile_imp member
  · intro c member
    rw [String.toList_ofList, List.mem_reverse] at member
    exact List.mem_takeWhile_imp member
  · have back : (rest.reverse.dropWhile isBlank).reverse ++
        (rest.reverse.takeWhile isBlank).reverse = rest := by
      rw [← List.reverse_append, List.takeWhile_append_dropWhile, List.reverse_reverse]
    rw [trimBlank, ← String.ofList_append, ← String.ofList_append, List.append_assoc, back,
      List.takeWhile_append_dropWhile, String.ofList_toList]

end Text

theorem Text.trimBlank_of_forall {s : String} (h : ∀ c ∈ s.toList, isBlank c = false) :
    trimBlank s = s := by
  have front : s.toList.dropWhile isBlank = s.toList := by
    rw [List.dropWhile_eq_self_iff]
    intro written
    rw [h _ (List.getElem_mem written)]
    exact Bool.false_ne_true
  have back : s.toList.reverse.dropWhile isBlank = s.toList.reverse := by
    rw [List.dropWhile_eq_self_iff]
    intro written
    rw [h _ (List.mem_reverse.mp (List.getElem_mem written))]
    exact Bool.false_ne_true
  rw [trimBlank, front, back, List.reverse_reverse, String.ofList_toList]

namespace Base64

theorem isBlank_symbol {x : Nat} (h : x < 64) :
    Text.isBlank (Char.ofNat (symbol x).toNat) = false := by
  revert x
  decide

theorem trimBlank_encodeText (b : Bytes) : Text.trimBlank (encodeText b) = encodeText b := by
  apply Text.trimBlank_of_forall
  intro c member
  rw [encodeText, Text.ofAscii, String.toList_ofList] at member
  obtain ⟨x, written, rfl⟩ := List.mem_map.mp member
  rw [encode_eq, List.mem_append] at written
  rcases written with symbol | filled
  · obtain ⟨sextet, small, rfl⟩ := List.mem_map.mp symbol
    exact isBlank_symbol (lt_of_mem_sextets small)
  · rw [List.eq_of_mem_replicate filled]
    decide

end Base64

namespace Text

theorem toNat_of_isDigit {c : Char} (h : c.isDigit = true) : 48 ≤ c.toNat ∧ c.toNat ≤ 57 := by
  simpa [Char.isDigit, UInt32.le_iff_toNat_le] using h

/-- The digits of a number are not blank. -/
theorem trimBlank_toString (n : Nat) : trimBlank (toString n) = toString n := by
  apply trimBlank_of_forall
  intro c member
  rw [Nat.toString_eq_ofList_toDigits, String.toList_ofList] at member
  have digit := toNat_of_isDigit (Nat.isDigit_of_mem_toDigits (by decide) (by decide) member)
  simp only [isBlank, Bool.or_eq_false_iff, Bool.and_eq_false_imp, decide_eq_true_eq,
    decide_eq_false_iff_not, beq_eq_false_iff_ne]
  omega

end Text

end SealedLink
