import SealedLink.Proofs.Text.Base64

/-!
# Canonical base64

A canonical text is described by its characters alone: digits of the alphabet, then the padding that
fills the last group of four, and no bit set in the last digit that belongs to no byte. These are
exactly the texts that are written, and so the only ones that are read.

## Main definitions

* `Base64.digit` — the digit of a number below sixty-four
* `Base64.EndsClear` — no unused bit is set
* `Base64.IsCanonical` — the canonical texts

## Main results

* `Base64.isCanonical_iff` — canonical texts are those that are written
* `Base64.exists_decodeText_iff` — and those that are read
-/

namespace SealedLink.Base64

/-- The digits in the order of their numbers. -/
def alphabet : List Char :=
  "ABCDEFGHIJKLMNOPQRSTUVWXYZabcdefghijklmnopqrstuvwxyz0123456789+/".toList

/-- The digit of a number below sixty-four. -/
def digit (x : Nat) : Char := alphabet.getD x '='

/-- The bits of the last digit that no byte uses are zero: there are two before one padding
character, and four before two. -/
def EndsClear (xs : List Nat) (n : Nat) : Prop :=
  ∀ x ∈ xs.getLast?, (n = 1 → x % 4 = 0) ∧ (n = 2 → x % 16 = 0)

/-- A text of digits and at most two padding characters, together whole groups of four, without any
unused bit that is set. -/
def IsCanonical (s : String) : Prop :=
  ∃ (xs : List Nat) (n : Nat), s.toList = xs.map digit ++ List.replicate n '=' ∧
    (∀ x ∈ xs, x < 64) ∧ n ≤ 2 ∧ (xs.length + n) % 4 = 0 ∧ EndsClear xs n

theorem digit_eq {x : Nat} (h : x < 64) : digit x = Char.ofNat (symbol x).toNat := by
  revert x
  decide

theorem isCanonicalEnd_iff {xs : List Nat} {n : Nat} (few : n ≤ 2)
    (filled : (xs.length + n) % 4 = 0) : isCanonicalEnd xs = true ↔ EndsClear xs n := by
  unfold isCanonicalEnd EndsClear
  -- the length leaves room for as many padding characters as there are
  obtain rfl | rfl | rfl : n = 0 ∨ n = 1 ∨ n = 2 := by omega
  · have whole : xs.length % 4 = 0 := by omega
    simp [whole]
  · have three : xs.length % 4 = 3 := by omega
    cases xs.getLast? <;> simp [three]
  · have two : xs.length % 4 = 2 := by omega
    cases xs.getLast? <;> simp [two]

/-- A written text, character by character. -/
theorem toList_encodeText (b : Bytes) :
    (encodeText b).toList = (sextets b).map digit ++ List.replicate (padding b) '=' := by
  have digits : (sextets b).map (fun x => Char.ofNat (symbol x).toNat) = (sextets b).map digit :=
    List.map_congr_left fun x member => (digit_eq (lt_of_mem_sextets member)).symm
  rw [encodeText, Text.ofAscii, String.toList_ofList, encode_eq, List.map_append, List.map_map,
    List.map_replicate]
  exact congrArg (· ++ _) digits

/-- The canonical texts are those that are written. -/
theorem isCanonical_iff {s : String} : IsCanonical s ↔ ∃ b, s = encodeText b := by
  constructor
  · rintro ⟨xs, n, written, small, few, filled, unused⟩
    obtain ⟨same, room⟩ :=
      sextets_ofSextets small ((isCanonicalEnd_iff few filled).mpr unused) filled few
    refine ⟨ofSextets xs, ?_⟩
    rw [← String.toList_inj, written, toList_encodeText, same, room]
  · rintro ⟨b, rfl⟩
    have room := length_sextets_mod b
    have few : padding b ≤ 2 := by omega
    have filled : ((sextets b).length + padding b) % 4 = 0 := by omega
    exact ⟨sextets b, padding b, toList_encodeText b, fun _ => lt_of_mem_sextets, few, filled,
      (isCanonicalEnd_iff few filled).mp (isCanonicalEnd_sextets b)⟩

theorem exists_decodeText_iff {s : String} :
    (∃ b, decodeText s = .ok b) ↔ IsCanonical s := by
  simp only [decodeText_eq_ok_iff, isCanonical_iff]

end SealedLink.Base64
