import SealedLink.Text.Form

/-!
# Form coding is read back

A written name or value holds no byte that has a meaning between names and values, so what separates
fields is found where it was put. Reading goes through the written bytes from the front: an escape
is three bytes, and every other written byte stands for one.

## Main definitions

* `Form.isWritten` — the bytes that writing makes use of
* `Form.IsPlain` — bytes of ASCII that neither separate fields nor begin or divide them

## Main results

* `Form.decode_encode` — what is written is read back
* `Form.isPlain_of_mem_encode` — a written name or value is plain
* `Form.fields_append`, `Form.cut_append` — fields and their names end at the first separator
-/

namespace SealedLink.Form

/-! ### One name or value -/

/-- Bytes that occur in a written name or value: the unreserved ones, `+` and `%`. -/
def isWritten (b : UInt8) : Bool := isUnreserved b || b == 0x2b || b == 0x25

/-- Bytes of ASCII other than `&`, `=` and `?`. -/
def IsPlain (b : UInt8) : Prop := b < 0x80 ∧ b ≠ 0x26 ∧ b ≠ 0x3d ∧ b ≠ 0x3f

instance (b : UInt8) : Decidable (IsPlain b) := inferInstanceAs (Decidable (_ ∧ _))

theorem hexValue?_hexDigit {x : Nat} (h : x < 16) : hexValue? (hexDigit x) = some x := by
  revert x
  decide

theorem isUnreserved_hexDigit {x : Nat} (h : x < 16) : isUnreserved (hexDigit x) = true := by
  revert x
  decide

theorem isWritten_of_mem_encodeByte {b x : UInt8} (h : x ∈ encodeByte b) : isWritten x = true := by
  have low := b.toNat_lt
  have unreserved {y : UInt8} (h : isUnreserved y = true) : isWritten y = true := by
    simp [isWritten, h]
  unfold encodeByte at h
  split at h
  · rename_i itself
    rw [List.mem_singleton.mp h]
    exact unreserved itself
  · split at h
    · rw [List.mem_singleton.mp h]
      decide
    · simp only [List.mem_cons, List.not_mem_nil, or_false] at h
      rcases h with rfl | rfl | rfl
      · decide
      · exact unreserved (isUnreserved_hexDigit (by omega))
      · exact unreserved (isUnreserved_hexDigit (by omega))

theorem isWritten_of_mem_encode {b : Bytes} {x : UInt8} (h : x ∈ encode b) : isWritten x = true := by
  obtain ⟨y, -, written⟩ := List.mem_flatMap.mp h
  exact isWritten_of_mem_encodeByte written

theorem isPlain_of_isWritten {b : UInt8} (h : isWritten b = true) : IsPlain b := by
  have every : ∀ n < 256, isWritten (UInt8.ofNat n) = true → IsPlain (UInt8.ofNat n) := by
    decide +kernel
  have this := every b.toNat b.toNat_lt
  rw [UInt8.ofNat_toNat] at this
  exact this h

theorem isPlain_of_mem_encode {b : Bytes} {x : UInt8} (h : x ∈ encode b) : IsPlain x :=
  isPlain_of_isWritten (isWritten_of_mem_encode h)

/-- A byte other than `%` is read by itself, whatever follows. -/
theorem decode_cons_of_ne {b : UInt8} (h : b ≠ 0x25) (rest : Bytes) :
    decode (b :: rest) = (if b = 0x2b then 0x20 else b) :: decode rest := by
  rw [decode]
  exact fun _ _ _ percent => absurd percent h

theorem decode_encodeByte_append (b : UInt8) (rest : Bytes) :
    decode (encodeByte b ++ rest) = b :: decode rest := by
  unfold encodeByte
  by_cases unreserved : isUnreserved b = true
  · have percent : b ≠ 0x25 := by
      rintro rfl
      exact absurd unreserved (by decide)
    have plus : b ≠ 0x2b := by
      rintro rfl
      exact absurd unreserved (by decide)
    rw [if_pos unreserved, List.singleton_append, decode_cons_of_ne percent, if_neg plus]
  · by_cases space : b = 0x20
    · rw [if_neg unreserved, if_pos space, List.singleton_append, decode_cons_of_ne (by decide),
        if_pos rfl, space]
    · have low := b.toNat_lt
      -- any other byte is an escape, and its two digits are put together again
      have byte : UInt8.ofNat (16 * (b.toNat / 16) + b.toNat % 16) = b := by
        rw [Nat.div_add_mod, UInt8.ofNat_toNat]
      have read : escaped? (hexDigit (b.toNat / 16)) (hexDigit (b.toNat % 16)) = some b := by
        rw [escaped?, hexValue?_hexDigit (by omega), hexValue?_hexDigit (by omega)]
        exact congrArg some byte
      rw [if_neg unreserved, if_neg space]
      simp only [List.cons_append, List.nil_append, decode, read]

theorem decode_encode (b : Bytes) : decode (encode b) = b := by
  induction b with
  | nil => rfl
  | cons x b ih =>
    change decode (encodeByte x ++ encode b) = x :: b
    rw [decode_encodeByte_append, ih]

/-! ### Fields -/

theorem split_ne_nil (separator : UInt8) (b : Bytes) : split separator b ≠ [] := by
  cases b with
  | nil => exact List.cons_ne_nil _ _
  | cons x b =>
    unfold split
    split
    · exact List.cons_ne_nil _ _
    · split <;> exact List.cons_ne_nil _ _

theorem split_append (separator : UInt8) (x y : Bytes) :
    split separator (x ++ separator :: y) = split separator x ++ split separator y := by
  induction x with
  | nil => simp only [List.nil_append, split, if_true, List.singleton_append]
  | cons b x ih =>
    simp only [List.cons_append, split]
    by_cases same : b = separator
    · rw [if_pos same, if_pos same, ih]
      rfl
    · rw [if_neg same, if_neg same, ih]
      -- a byte that does not separate joins the first part, and there always is one
      cases parts : split separator x with
      | nil => exact absurd parts (split_ne_nil separator x)
      | cons part parts => rfl

theorem split_of_not_mem {separator : UInt8} {b : Bytes} (h : separator ∉ b) :
    split separator b = [b] := by
  induction b with
  | nil => rfl
  | cons x b ih =>
    obtain ⟨first, others⟩ := List.ne_and_not_mem_of_not_mem_cons h
    rw [split, if_neg first.symm, ih others]

/-- The fields of two queries joined by `&`. -/
theorem fields_append (x y : Bytes) : fields (x ++ 0x26 :: y) = fields x ++ fields y := by
  rw [fields, split_append, List.filter_append]
  rfl

theorem fields_of_not_mem {b : Bytes} (h : 0x26 ∉ b) (written : b ≠ []) : fields b = [b] := by
  rw [fields, split_of_not_mem h]
  exact List.filter_cons_of_pos (decide_eq_true written)

/-- A name without `=` ends where it was put together with its value. -/
theorem cut_append {name : Bytes} (h : 0x3d ∉ name) (value : Bytes) :
    cut (name ++ 0x3d :: value) = (name, value) := by
  have before : ∀ b ∈ name, decide (b ≠ 0x3d) = true := by
    intro b member
    exact decide_eq_true fun same => h (same ▸ member)
  rw [cut, List.takeWhile_append_of_pos before, List.dropWhile_append_of_pos before]
  simp

end SealedLink.Form
