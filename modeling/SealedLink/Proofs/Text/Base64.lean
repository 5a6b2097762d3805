import SealedLink.Proofs.Failure
import SealedLink.Proofs.Text.Utf8
import SealedLink.Text.Base64

/-!
# Base64 is read back

A written text is the symbols of the sextets of a byte string, and after them as many padding
symbols as fill the last group. The strict reader accepts it: it splits the symbols where a group
begins, meets the padding only at the third or fourth place of the last group, and finds the unused
bits of the last sextet zero.

## Main definitions

* `Base64.sextets`, `Base64.padding` — the sextets of a byte string, and the number of padding
  symbols

## Main results

* `Base64.encode_eq` — a written text by its sextets and its padding
* `Base64.decode_encode`, `Base64.decodeText_encodeText` — what is written is read back
* `Base64.decode_eq_ok_iff`, `Base64.decodeText_eq_ok_iff` — and nothing else is read
-/

namespace SealedLink.Base64

/-! ### Symbols -/

theorem sextet?_symbol {x : Nat} (h : x < 64) : sextet? (symbol x) = some x := by
  revert x
  decide

theorem symbol_lt {x : Nat} (h : x < 64) : symbol x < 0x80 := by
  revert x
  decide

theorem symbol_ne_padSymbol {x : Nat} (h : x < 64) : symbol x ≠ padSymbol := by
  revert x
  decide

theorem eq_symbol_of_sextet? {b : UInt8} {x : Nat} (h : sextet? b = some x) :
    x < 64 ∧ b = symbol x := by
  have every : ∀ n < 256, ∀ x ∈ sextet? (UInt8.ofNat n), x < 64 ∧ UInt8.ofNat n = symbol x := by
    decide +kernel
  have this := every b.toNat b.toNat_lt x
  rw [UInt8.ofNat_toNat] at this
  exact this h

/-! ### Written texts -/

/-- The sextets of a byte string; bits that no byte fills are zero. -/
def sextets : Bytes → List Nat
  | a :: b :: c :: rest =>
    a.toNat / 4 :: (a.toNat % 4 * 16 + b.toNat / 16) :: (b.toNat % 16 * 4 + c.toNat / 64) ::
      c.toNat % 64 :: sextets rest
  | [a, b] => [a.toNat / 4, a.toNat % 4 * 16 + b.toNat / 16, b.toNat % 16 * 4]
  | [a] => [a.toNat / 4, a.toNat % 4 * 16]
  | [] => []

/-- The number of padding symbols after the symbols of a byte string. -/
def padding : Bytes → Nat
  | _ :: _ :: _ :: rest => padding rest
  | [_, _] => 1
  | [_] => 2
  | [] => 0

theorem encode_eq (b : Bytes) :
    encode b = (sextets b).map symbol ++ List.replicate (padding b) padSymbol := by
  induction b using encode.induct with
  | case1 a b c rest ih => simp only [encode, sextets, padding, List.map_cons, List.cons_append, ih]
  | case2 | case3 | case4 => rfl

theorem lt_of_mem_sextets {b : Bytes} {x : Nat} (h : x ∈ sextets b) : x < 64 := by
  induction b using sextets.induct with
  | case1 a b c rest ih =>
    have bounds := And.intro a.toNat_lt (And.intro b.toNat_lt c.toNat_lt)
    simp only [sextets, List.mem_cons] at h
    rcases h with rfl | rfl | rfl | rfl | h
    · omega
    · omega
    · omega
    · omega
    · exact ih h
  | case2 a b =>
    have bounds := And.intro a.toNat_lt b.toNat_lt
    simp only [sextets, List.mem_cons, List.not_mem_nil, or_false] at h
    omega
  | case3 a =>
    have bound := a.toNat_lt
    simp only [sextets, List.mem_cons, List.not_mem_nil, or_false] at h
    omega
  | case4 => exact absurd h List.not_mem_nil

/-- The padding fills the last group, which has at least two symbols. -/
theorem length_sextets_mod (b : Bytes) :
    (sextets b).length % 4 = 0 ∧ padding b = 0 ∨ (sextets b).length % 4 = 3 ∧ padding b = 1 ∨
      (sextets b).length % 4 = 2 ∧ padding b = 2 := by
  induction b using sextets.induct with
  | case1 a b c rest ih =>
    simp only [sextets, padding, List.length_cons]
    omega
  | case2 => exact .inr (.inl ⟨rfl, rfl⟩)
  | case3 => exact .inr (.inr ⟨rfl, rfl⟩)
  | case4 => exact .inl ⟨rfl, rfl⟩

/-- Whole groups in front do not matter to the end. -/
theorem isCanonicalEnd_append {front back : List Nat} (h : front.length % 4 = 0) :
    isCanonicalEnd (front ++ back) = isCanonicalEnd back := by
  have size : (front ++ back).length % 4 = back.length % 4 := by
    rw [List.length_append]
    omega
  cases back with
  | nil =>
    rw [List.append_nil, isCanonicalEnd, h]
    rfl
  | cons x back =>
    rw [isCanonicalEnd, isCanonicalEnd, size, List.getLast?_append]
    rfl

theorem isCanonicalEnd_sextets (b : Bytes) : isCanonicalEnd (sextets b) = true := by
  induction b using sextets.induct with
  | case1 a b c rest ih =>
    change isCanonicalEnd ([_, _, _, _] ++ sextets rest) = true
    rw [isCanonicalEnd_append (by simp), ih]
  | case2 a b => simp [isCanonicalEnd, sextets]
  | case3 a => simp [isCanonicalEnd, sextets]
  | case4 => rfl

theorem ofNat_eq {x : Nat} {a : UInt8} (h : x = a.toNat) : UInt8.ofNat x = a := by
  rw [h, UInt8.ofNat_toNat]

/-- Every byte is put together again from the two sextets that it was cut into. -/
theorem ofSextets_sextets (b : Bytes) : ofSextets (sextets b) = b := by
  induction b using sextets.induct with
  | case1 a b c rest ih =>
    have bounds := And.intro a.toNat_lt (And.intro b.toNat_lt c.toNat_lt)
    simp only [sextets, ofSextets, ih, List.cons.injEq, and_true]
    exact ⟨ofNat_eq (by omega), ofNat_eq (by omega), ofNat_eq (by omega)⟩
  | case2 a b =>
    have bounds := And.intro a.toNat_lt b.toNat_lt
    simp only [sextets, ofSextets, List.cons.injEq, and_true]
    exact ⟨ofNat_eq (by omega), ofNat_eq (by omega)⟩
  | case3 a =>
    have bound := a.toNat_lt
    simp only [sextets, ofSextets, List.cons.injEq, and_true]
    exact ofNat_eq (by omega)
  | case4 => rfl

/-! ### Reading -/

theorem readSymbols_map {xs : List Nat} (h : ∀ x ∈ xs, x < 64) (i : Nat) :
    readSymbols i (xs.map symbol) = .ok xs := by
  induction xs generalizing i with
  | nil => rfl
  | cons x xs ih =>
    obtain ⟨first, others⟩ := List.forall_mem_cons.mp h
    simp only [List.map_cons, readSymbols, sextet?_symbol first, ih others]
    rfl

theorem readEnd_map_append {xs : List Nat} (h : ∀ x ∈ xs, x < 64) (start i : Nat) (rest : Bytes) :
    readEnd start i none (xs.map symbol ++ rest) =
      (readEnd start (i + xs.length) none rest).map fun (ys, n) => (xs ++ ys, n) := by
  induction xs generalizing i with
  | nil =>
    simp only [List.map_nil, List.nil_append, List.length_nil, Nat.add_zero]
    cases readEnd start i none rest <;> rfl
  | cons x xs ih =>
    obtain ⟨first, others⟩ := List.forall_mem_cons.mp h
    simp only [List.map_cons, List.cons_append, readEnd, symbol_ne_padSymbol first,
      sextet?_symbol first, if_false, ih others, List.length_cons, Nat.add_assoc, Nat.add_comm 1]
    cases readEnd start (i + (xs.length + 1)) none rest <;> rfl

/-- Padding is read where it fills a group of which two symbols have been read. -/
theorem readEnd_replicate {n i : Nat} (h : n = 0 ∨ 2 ≤ i % 4 ∧ i % 4 + n ≤ 4) (start : Nat)
    (pad? : Option Nat) : readEnd start i pad? (List.replicate n padSymbol) = .ok ([], n) := by
  induction n generalizing i pad? with
  | zero => rfl
  | succ n ih =>
    -- two symbols of the group have been read, so padding may stand here
    have place : ¬ i % 4 < 2 := by omega
    have next : n = 0 ∨ 2 ≤ (i + 1) % 4 ∧ (i + 1) % 4 + n ≤ 4 := by omega
    simp only [List.replicate_succ, readEnd, if_true, place, if_false, ih next]
    rfl

/-! ### Round trip -/

theorem lengthFault?_encode (b : Bytes) : lengthFault? (encode b) = none := by
  have size : (encode b).length % 4 ≠ 1 := by
    have shape := length_sextets_mod b
    rw [encode_eq, List.length_append, List.length_map, List.length_replicate]
    omega
  unfold lengthFault?
  cases (encode b).getLast? <;> simp [size]

/-- The strict reader accepts every written text, and finds the bytes that it was written for. -/
theorem decode_encode (b : Bytes) : decode (encode b) = .ok b := by
  have shape := length_sextets_mod b
  have size : (encode b).length = (sextets b).length + padding b := by
    rw [encode_eq, List.length_append, List.length_map, List.length_replicate]
  -- the last part begins with a group and before the padding
  obtain ⟨start, place⟩ : ∃ start, start = endStart (encode b).length := ⟨_, rfl⟩
  have inside : start ≤ (sextets b).length ∧ start % 4 = 0 := by
    rw [place, size, endStart]
    omega
  have front : readSymbols 0 ((encode b).take start) = .ok ((sextets b).take start) := by
    rw [encode_eq, List.take_append_of_le_length (by rw [List.length_map]; exact inside.1),
      ← List.map_take]
    exact readSymbols_map (fun x member => lt_of_mem_sextets (List.mem_of_mem_take member)) 0
  have back : readEnd start 0 none ((encode b).drop start) =
      .ok ((sextets b).drop start, padding b) := by
    rw [encode_eq, List.drop_append_of_le_length (by rw [List.length_map]; exact inside.1),
      ← List.map_drop, readEnd_map_append fun x member => lt_of_mem_sextets (List.mem_of_mem_drop member),
      readEnd_replicate (by rw [List.length_drop]; omega)]
    simp [Except.map]
  have filled : (((sextets b).drop start).length + padding b) % 4 = 0 := by
    rw [List.length_drop]
    omega
  have canonical : isCanonicalEnd ((sextets b).drop start) = true := by
    -- whole groups have been cut off, so the end is still the end of all sextets
    have whole : ((sextets b).take start).length % 4 = 0 := by
      rw [List.length_take]
      omega
    rw [← isCanonicalEnd_append whole, List.take_append_drop, isCanonicalEnd_sextets]
  simp only [decode, lengthFault?_encode, ← place, front, back, bind, Except.bind, pure,
    Except.pure, filled, canonical, ne_eq, not_true, if_false, List.take_append_drop, ofSextets_sextets]

/-! ### Strictness -/

theorem eq_map_of_readSymbols {t : Bytes} {xs : List Nat} {i : Nat}
    (h : readSymbols i t = .ok xs) : (∀ x ∈ xs, x < 64) ∧ t = xs.map symbol := by
  induction t generalizing xs i with
  | nil =>
    cases h
    exact ⟨fun _ member => absurd member List.not_mem_nil, rfl⟩
  | cons b t ih =>
    rw [readSymbols] at h
    cases read : sextet? b with
    | none => simp [read] at h
    | some x =>
      cases others : readSymbols (i + 1) t with
      | error fault => simp [read, others, Except.map] at h
      | ok ys =>
        obtain rfl : x :: ys = xs := by simpa [read, others, Except.map] using h
        obtain ⟨small, rfl⟩ := eq_symbol_of_sextet? read
        obtain ⟨smalls, rfl⟩ := ih others
        exact ⟨List.forall_mem_cons.mpr ⟨small, smalls⟩, rfl⟩

/-- After a padding symbol nothing but padding is read, up to the end of the group. -/
theorem eq_replicate_of_readEnd {t : Bytes} {xs : List Nat} {start i j n : Nat}
    (h : readEnd start i (some j) t = .ok (xs, n)) :
    xs = [] ∧ t = List.replicate n padSymbol ∧ (n = 0 ∨ 2 ≤ i % 4 ∧ i % 4 + n ≤ 4) := by
  induction t generalizing xs i n with
  | nil =>
    cases h
    exact ⟨rfl, rfl, .inl rfl⟩
  | cons b t ih =>
    rw [readEnd] at h
    by_cases pad : b = padSymbol
    · rw [if_pos pad] at h
      by_cases early : i % 4 < 2
      · simp [early] at h
      · cases rest : readEnd start (i + 1) (some j) t with
        | error fault => simp [early, rest, Except.map] at h
        | ok found =>
          obtain ⟨ys, m⟩ := found
          obtain ⟨rfl, rfl⟩ : ys = xs ∧ m + 1 = n := by
            simpa [early, rest, Except.map] using h
          obtain ⟨none, rfl, place⟩ := ih rest
          refine ⟨none, by rw [pad, List.replicate_succ], .inr ?_⟩
          omega
    · simp [pad] at h

/-- The last part that is read consists of symbols and of padding that does not exceed its group. -/
theorem eq_append_of_readEnd {t : Bytes} {xs : List Nat} {start i n : Nat}
    (h : readEnd start i none t = .ok (xs, n)) :
    (∀ x ∈ xs, x < 64) ∧ t = xs.map symbol ++ List.replicate n padSymbol ∧
      (n = 0 ∨ 2 ≤ (i + xs.length) % 4 ∧ (i + xs.length) % 4 + n ≤ 4) := by
  induction t generalizing xs i n with
  | nil =>
    cases h
    exact ⟨fun _ member => absurd member List.not_mem_nil, rfl, .inl rfl⟩
  | cons b t ih =>
    by_cases pad : b = padSymbol
    · -- from here on the padding is read as after another padding symbol
      have padded : readEnd start i (some i) (b :: t) = .ok (xs, n) := by
        rw [← h]
        simp only [readEnd, pad, if_true, Option.getD_some, Option.getD_none]
      obtain ⟨rfl, filled, place⟩ := eq_replicate_of_readEnd padded
      exact ⟨fun _ member => absurd member List.not_mem_nil, filled, place⟩
    · cases read : sextet? b with
      | none => simp [readEnd, pad, read] at h
      | some x =>
        cases rest : readEnd start (i + 1) none t with
        | error fault => simp [readEnd, pad, read, rest, Except.map] at h
        | ok found =>
          obtain ⟨ys, m⟩ := found
          obtain ⟨rfl, rfl⟩ : x :: ys = xs ∧ m = n := by
            simpa [readEnd, pad, read, rest, Except.map] using h
          obtain ⟨small, rfl⟩ := eq_symbol_of_sextet? read
          obtain ⟨smalls, rfl, place⟩ := ih rest
          refine ⟨List.forall_mem_cons.mpr ⟨small, smalls⟩, rfl, ?_⟩
          rw [List.length_cons]
          omega

/-- Sextets whose unused bits are zero are cut again from the bytes that they make up, and leave the
room that the padding filled. -/
theorem sextets_ofSextets {xs : List Nat} {n : Nat} (small : ∀ x ∈ xs, x < 64)
    (canonical : isCanonicalEnd xs = true) (filled : (xs.length + n) % 4 = 0) (few : n ≤ 2) :
    sextets (ofSextets xs) = xs ∧ padding (ofSextets xs) = n := by
  induction xs using ofSextets.induct with
  | case1 a b c d rest ih =>
    simp only [List.forall_mem_cons] at small
    obtain ⟨a_lt, b_lt, c_lt, d_lt, smalls⟩ := small
    have canonical' : isCanonicalEnd rest = true := by
      have whole : [a, b, c, d].length % 4 = 0 := by simp
      rw [← isCanonicalEnd_append whole]
      exact canonical
    obtain ⟨same, room⟩ := ih smalls canonical' (by simp only [List.length_cons] at filled; omega)
    simp only [ofSextets, sextets, padding, same, room, UInt8.toNat_ofNat', List.cons.injEq,
      and_true]
    omega
  | case2 a b c =>
    simp only [List.forall_mem_cons] at small
    have unused : c % 4 = 0 := by simpa [isCanonicalEnd] using canonical
    simp only [List.length_cons, List.length_nil] at filled
    simp only [ofSextets, sextets, padding, UInt8.toNat_ofNat', List.cons.injEq, and_true]
    omega
  | case3 a b =>
    simp only [List.forall_mem_cons] at small
    have unused : b % 16 = 0 := by simpa [isCanonicalEnd] using canonical
    simp only [List.length_cons, List.length_nil] at filled
    simp only [ofSextets, sextets, padding, UInt8.toNat_ofNat', List.cons.injEq, and_true]
    omega
  | case4 xs whole three two =>
    -- a single sextet would need three padding symbols
    cases xs with
    | nil =>
      rw [List.length_nil] at filled
      refine ⟨rfl, ?_⟩
      simp only [ofSextets, padding]
      omega
    | cons a xs =>
      match xs with
      | [] =>
        rw [List.length_singleton] at filled
        omega
      | [b] => exact absurd rfl (two a b)
      | [b, c] => exact absurd rfl (three a b c)
      | b :: c :: d :: rest => exact absurd rfl (whole a b c d rest)

/-- What a text that is read has passed. -/
theorem exists_of_decode {t b : Bytes} (h : decode t = .ok b) :
    ∃ xs ys n, readSymbols 0 (t.take (endStart t.length)) = .ok xs ∧
      readEnd (endStart t.length) 0 none (t.drop (endStart t.length)) = .ok (ys, n) ∧
      (ys.length + n) % 4 = 0 ∧ isCanonicalEnd ys = true ∧ ofSextets (xs ++ ys) = b := by
  unfold decode at h
  split at h
  · rw [bind_eq_ok_iff] at h
    obtain ⟨_, refused, -⟩ := h
    cases refused
  · simp only [bind_eq_ok_iff, ite_throw_bind_eq_ok_iff, ne_eq, Decidable.not_not] at h
    obtain ⟨xs, front, ⟨ys, n⟩, back, filled, canonical, bytes⟩ := h
    exact ⟨xs, ys, n, front, back, filled, canonical, Except.ok.inj bytes⟩

/-- The strict reader accepts written texts only. -/
theorem decode_eq_ok_iff {t b : Bytes} : decode t = .ok b ↔ t = encode b := by
  refine ⟨?_, fun written => written ▸ decode_encode b⟩
  intro h
  obtain ⟨xs, ys, n, front, back, filled, canonical, rfl⟩ := exists_of_decode h
  obtain ⟨smalls, symbols⟩ := eq_map_of_readSymbols front
  obtain ⟨smalls', symbols', place⟩ := eq_append_of_readEnd back
  -- the last part begins with a group
  have whole : xs.length % 4 = 0 := by
    have length := congrArg List.length symbols
    rw [List.length_take, List.length_map, endStart] at length
    omega
  have small : ∀ x ∈ xs ++ ys, x < 64 := by
    intro x member
    exact (List.mem_append.mp member).elim (smalls x) (smalls' x)
  have filled' : ((xs ++ ys).length + n) % 4 = 0 := by
    rw [List.length_append]
    omega
  obtain ⟨same, room⟩ := sextets_ofSextets small ((isCanonicalEnd_append whole).trans canonical)
    filled' (by omega)
  rw [encode_eq, same, room, List.map_append, List.append_assoc, ← symbols', ← symbols,
    List.take_append_drop]

theorem encode_ascii {b : Bytes} {x : UInt8} (h : x ∈ encode b) : x < 0x80 := by
  rw [encode_eq, List.mem_append] at h
  rcases h with written | filled
  · obtain ⟨sextet, member, rfl⟩ := List.mem_map.mp written
    exact symbol_lt (lt_of_mem_sextets member)
  · rw [List.eq_of_mem_replicate filled]
    decide

theorem utf8_encodeText (b : Bytes) : Text.utf8 (encodeText b) = encode b :=
  Text.utf8_ofAscii fun _ member => encode_ascii member

theorem decodeText_encodeText (b : Bytes) : decodeText (encodeText b) = .ok b := by
  rw [decodeText, utf8_encodeText, decode_encode]

theorem decodeText_eq_ok_iff {s : String} {b : Bytes} :
    decodeText s = .ok b ↔ s = encodeText b := by
  rw [decodeText, decode_eq_ok_iff, ← utf8_encodeText, Text.utf8_inj]

end SealedLink.Base64
