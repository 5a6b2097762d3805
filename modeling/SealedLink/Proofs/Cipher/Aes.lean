import SealedLink.Cipher.Aes

/-!
# Round keys

The columns of a key are its bytes four by four, and the round keys are columns four by four, so a
key of an admitted length has a first round key.

## Main results

* `Block.length_columns`, `Block.length_ofColumns` — the number of columns and of blocks
* `Aes.KeySchedule.exists_ofKey?` — every key of an admitted length has round keys
-/

namespace SealedLink

namespace Block

theorem length_columns (b : Bytes) : (columns b).length = b.length / 4 := by
  induction b using columns.induct with
  | case1 a b c d rest ih =>
    simp only [columns, List.length_cons, ih]
    omega
  | case2 b short =>
    rcases b with _ | ⟨a, _ | ⟨b, _ | ⟨c, _ | ⟨d, rest⟩⟩⟩⟩
    · rfl
    · simp [columns]
    · simp [columns]
    · simp [columns]
    · exact absurd rfl (short a b c d rest)

theorem length_ofColumns (x : List Column) : (ofColumns x).length = x.length / 4 := by
  induction x using ofColumns.induct with
  | case1 a b c d rest ih =>
    simp only [ofColumns, List.length_cons, ih]
    omega
  | case2 x short =>
    rcases x with _ | ⟨a, _ | ⟨b, _ | ⟨c, _ | ⟨d, rest⟩⟩⟩⟩
    · rfl
    · simp [ofColumns]
    · simp [ofColumns]
    · simp [ofColumns]
    · exact absurd rfl (short a b c d rest)

end Block

namespace Aes.KeySchedule

theorem length_of_ofKey? {key : Bytes} {keys : KeySchedule} (h : ofKey? key = some keys) :
    key.length = 16 ∨ key.length = 24 ∨ key.length = 32 := by
  unfold ofKey? at h
  split at h
  · assumption
  · cases h

theorem exists_ofKey? {key : Bytes} (h : key.length = 16 ∨ key.length = 24 ∨ key.length = 32) :
    ∃ keys, ofKey? key = some keys := by
  have columns : 4 ≤ (Block.columns key).length := by
    rw [Block.length_columns]
    omega
  -- the columns of the key alone are enough for a first block
  have some_block : Block.ofColumns (Block.columns key ++ expand (Block.columns key).length
      (Block.columns key).length (Block.columns key) (3 * (Block.columns key).length + 28)) ≠
        [] := by
    apply List.ne_nil_of_length_pos
    rw [Block.length_ofColumns, List.length_append]
    omega
  obtain ⟨first, rest, blocks⟩ := List.exists_cons_of_ne_nil some_block
  refine ⟨⟨first, rest.dropLast, rest.getLastD Block.zero⟩, ?_⟩
  rw [ofKey?, if_pos h]
  simp only [blocks]

end Aes.KeySchedule

end SealedLink
