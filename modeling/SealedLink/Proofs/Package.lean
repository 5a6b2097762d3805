import Mathlib.Data.List.Induction
import SealedLink.Package
import SealedLink.Proofs.Query
import SealedLink.Proofs.Text.Blank

/-!
# Launch packages are read back

A package is written as four pairs in a fixed order, and read from whatever pairs there are: the
first pair of each field counts, in the order of the query.

## Main definitions

* `Package.IsNumeral` — the texts that stand for a version
* `Package.firstFields` — the fields of some pairs, in the order of their first occurrence
* `Package.copy` — one field taken over from another package

## Main results

* `Package.decodeValue_eq_ok_iff`, `Package.decodeVersion_eq_ok_iff` — the values that are read
* `Package.setAll_eq_foldlM` — reading goes through the first occurrences
* `Package.deserialize_serialize` — what is written is read back
-/

namespace SealedLink.Package

/-! ### Values -/

theorem exists_digitChar_eq {c : Char} (h : c.isDigit = true) : ∃ d < 10, Nat.digitChar d = c := by
  have every : ∀ n < 58, 48 ≤ n → Nat.digitChar (n - 48) = Char.ofNat n := by decide
  obtain ⟨low, high⟩ := Text.toNat_of_isDigit h
  refine ⟨c.toNat - 48, by omega, ?_⟩
  rw [every c.toNat (by omega) low, Char.ofNat_toNat]

/-- A row of digits is the shortest one for its value, perhaps after zeros. -/
theorem exists_eq_append_toDigits {digits : List Char} (written : digits ≠ [])
    (h : ∀ c ∈ digits, c.isDigit = true) :
    ∃ zeros, digits =
      List.replicate zeros '0' ++ Nat.toDigits 10 (Nat.ofDigitChars 10 digits 0) := by
  induction digits using List.reverseRecOn with
  | nil => exact absurd rfl written
  | append_singleton front c ih =>
    obtain ⟨d, small, rfl⟩ := exists_digitChar_eq (h c (by simp))
    have last : Nat.toDigits 10 d = [Nat.digitChar d] := Nat.toDigits_of_lt_base small
    rw [Nat.ofDigitChars_append, Nat.ofDigitChars_cons_digitChar_of_lt_ten small,
      Nat.ofDigitChars_nil, ← last]
    by_cases empty : front = []
    · refine ⟨0, ?_⟩
      rw [empty, Nat.ofDigitChars_nil, Nat.mul_zero, Nat.zero_add]
      rfl
    · obtain ⟨zeros, digits⟩ := ih empty fun c member => h c (List.mem_append_left _ member)
      rcases Nat.eq_zero_or_pos (Nat.ofDigitChars 10 front 0) with zero | positive
      · -- everything in front of the last digit is zero
        refine ⟨zeros + 1, ?_⟩
        rw [zero, Nat.toDigits_zero] at digits
        rw [zero, Nat.mul_zero, Nat.zero_add, digits, List.replicate_succ']
      · refine ⟨zeros, ?_⟩
        rw [← Nat.toDigits_append_toDigits (by decide) positive small, ← List.append_assoc,
          ← digits]

/-- The decimal digits of a number after some zeros are the rows of digits with its value. -/
theorem exists_eq_append_toDigits_iff {digits : List Char} {n : Nat} :
    (∃ zeros, digits = List.replicate zeros '0' ++ Nat.toDigits 10 n) ↔
      digits ≠ [] ∧ (∀ c ∈ digits, c.isDigit = true) ∧ Nat.ofDigitChars 10 digits 0 = n := by
  constructor
  · rintro ⟨zeros, rfl⟩
    refine ⟨List.append_ne_nil_of_right_ne_nil _ Nat.toDigits_ne_nil, ?_, ?_⟩
    · intro c member
      rcases List.mem_append.mp member with zero | digit
      · rw [List.eq_of_mem_replicate zero]
        rfl
      · exact Nat.isDigit_of_mem_toDigits (by decide) (by decide) digit
    · rw [Nat.ofDigitChars_append, Nat.ofDigitChars_replicate_zero, Nat.mul_zero,
        Nat.ofDigitChars_ten_toDigits]
  · rintro ⟨written, row, rfl⟩
    exact exists_eq_append_toDigits written row

theorem decimal?_eq_some_iff {digits : List Char} {n : Nat} :
    decimal? digits = some n ↔ ∃ zeros, digits = List.replicate zeros '0' ++ Nat.toDigits 10 n := by
  have digit : ∀ c : Char, ('0' ≤ c && c ≤ '9') = c.isDigit := by
    intro c
    simp [Char.isDigit, Char.le_def, UInt32.le_iff_toNat_le]
  unfold decimal?
  rw [exists_eq_append_toDigits_iff, ← Nat.ofDigitChars_eq_foldl]
  simp only [digit, List.all_eq_true]
  by_cases row : digits ≠ [] ∧ ∀ c ∈ digits, c.isDigit = true
  · rw [if_pos row, Option.some.injEq, ← and_assoc]
    exact (and_iff_right row).symm
  · rw [if_neg row, ← and_assoc]
    simp [row]

/-- A version in decimal digits, after some zeros. -/
def row (zeros : Nat) (v : UInt16) : List Char := List.replicate zeros '0' ++ (toString v).toList

/-- The text is a version in decimal digits, perhaps after zeros and after a plus sign. -/
def IsNumeral (v : UInt16) (text : String) : Prop :=
  ∃ sign ∈ [[], ['+']], ∃ zeros, text.toList = sign ++ row zeros v

theorem row_eq (zeros : Nat) (v : UInt16) :
    row zeros v = List.replicate zeros '0' ++ Nat.toDigits 10 v.toNat := by
  rw [row, show toString v = toString v.toNat from rfl, Nat.toString_eq_ofList_toDigits,
    String.toList_ofList]

theorem row_ne_plus_cons (zeros : Nat) (v : UInt16) (rest : List Char) :
    row zeros v ≠ '+' :: rest := by
  intro signed
  have plus : '+' ∈ row zeros v := by
    rw [signed]
    exact List.mem_cons_self
  rw [row_eq] at plus
  rcases List.mem_append.mp plus with zero | digit
  · exact absurd (List.eq_of_mem_replicate zero) (by decide)
  · exact absurd (Nat.isDigit_of_mem_toDigits (by decide) (by decide) digit) (by decide)

/-- A number as a version, if it is one. -/
def ofNumber? (n : Nat) : Option UInt16 := if n < 65536 then some (UInt16.ofNat n) else none

theorem ofNumber?_eq_some_iff {n : Nat} {v : UInt16} : ofNumber? n = some v ↔ n = v.toNat := by
  have bound := v.toNat_lt
  unfold ofNumber?
  by_cases small : n < 65536
  · rw [if_pos small, Option.some.injEq]
    constructor
    · rintro rfl
      exact (UInt16.toNat_ofNat_of_lt small).symm
    · rintro rfl
      exact UInt16.ofNat_toNat
  · simp only [if_neg small, reduceCtorEq, false_iff]
    omega

theorem bind_ofNumber?_eq_some_iff {digits : List Char} {v : UInt16} :
    (decimal? digits).bind ofNumber? = some v ↔ ∃ zeros, digits = row zeros v := by
  simp only [Option.bind_eq_some_iff, ofNumber?_eq_some_iff, exists_eq_right,
    decimal?_eq_some_iff, row_eq]

theorem version?_of_signed {text : String} {rest : List Char} (h : text.toList = '+' :: rest) :
    version? text = (decimal? rest).bind ofNumber? := by
  unfold version?
  simp only [h]
  cases decimal? rest <;> rfl

theorem version?_of_unsigned {text : String} (h : ∀ rest, text.toList ≠ '+' :: rest) :
    version? text = (decimal? text.toList).bind ofNumber? := by
  unfold version?
  -- the pattern with a sign is excluded by the hypothesis
  simp only
  cases decimal? text.toList <;> rfl

theorem version?_eq_some_iff {text : String} {v : UInt16} :
    version? text = some v ↔ IsNumeral v text := by
  unfold IsNumeral
  simp only [List.mem_cons, List.not_mem_nil, or_false, exists_eq_or_imp, exists_eq_left,
    List.nil_append, List.singleton_append]
  by_cases signed : ∃ rest, text.toList = '+' :: rest
  · obtain ⟨rest, signed⟩ := signed
    rw [version?_of_signed signed, bind_ofNumber?_eq_some_iff, signed]
    simp only [List.cons.injEq, true_and, (row_ne_plus_cons _ _ _).symm, exists_false, false_or]
  · have bare : ∀ rest, text.toList ≠ '+' :: rest := fun rest same => signed ⟨rest, same⟩
    rw [version?_of_unsigned bare, bind_ofNumber?_eq_some_iff]
    simp only [bare, exists_false, or_false]

theorem decodeVersion_eq_ok_iff {text : String} {v : UInt16} :
    decodeVersion text = .ok v ↔
      Text.trimBlank text = "" ∧ v = 0 ∨ IsNumeral v (Text.trimBlank text) := by
  rw [← version?_eq_some_iff]
  unfold decodeVersion
  have none : version? "" = none := rfl
  by_cases absent : Text.trimBlank text = ""
  · simp [absent, none, eq_comm]
  · cases read : version? (Text.trimBlank text) <;> simp [absent, read]

theorem decodeVersion_toString (v : UInt16) : decodeVersion (toString v) = .ok v := by
  have trimmed : Text.trimBlank (toString v) = toString v := Text.trimBlank_toString v.toNat
  rw [decodeVersion_eq_ok_iff, trimmed]
  exact .inr ⟨[], List.mem_cons_self, 0, rfl⟩

theorem decodeValue_eq_ok_iff {field : Field} {text : String} {b : Bytes} :
    decodeValue field text = .ok b ↔ Text.trimBlank text = Base64.encodeText b := by
  rw [decodeValue, ← Base64.decodeText_eq_ok_iff]
  cases Base64.decodeText (Text.trimBlank text) <;> simp

theorem decodeValue_encodeText (field : Field) (b : Bytes) :
    decodeValue field (Base64.encodeText b) = .ok b :=
  decodeValue_eq_ok_iff.mpr (Base64.trimBlank_encodeText b)

/-! ### Reading pairs -/

theorem Field.ofName?_eq_some_iff {name : String} {field : Field} :
    ofName? name = some field ↔ name = field.name := by
  constructor
  · intro found
    rw [ofName?] at found
    have same := List.find?_some found
    exact (eq_of_beq same).symm
  · rintro rfl
    cases field <;> decide

theorem Field.name_injective : Function.Injective Field.name := by
  intro field other same
  have found := Field.ofName?_eq_some_iff.mpr same
  rw [Field.ofName?_eq_some_iff.mpr rfl] at found
  exact Option.some.inj found

/-- The fields of some pairs, in the order of their first occurrence. -/
def firstFields : List (String × String) → List Field
  | [] => []
  | (name, _) :: pairs =>
    match Field.ofName? name with
    | none => firstFields pairs
    | some field => field :: (firstFields pairs).filter (· ≠ field)

theorem lookup_cons_of_ne {name text : String} {field : Field} (h : name ≠ field.name)
    (pairs : List (String × String)) :
    ((name, text) :: pairs).lookup field.name = pairs.lookup field.name := by
  rw [List.lookup_cons, beq_false_of_ne h.symm]

/-- A field that has been seen is passed over at its next occurrence. -/
theorem filter_ne_filter_of_mem {seen : List Field} {found : Field} (old : found ∈ seen)
    (fields : List Field) :
    (fields.filter (· ≠ found)).filter (· ∉ seen) = fields.filter (· ∉ seen) := by
  rw [List.filter_filter]
  apply List.filter_congr
  intro field _
  by_cases new : field ∈ seen
  · simp [new]
  · have other : field ≠ found := fun same => new (same ▸ old)
    simp [new, other]

/-- A field that is put in has been seen from then on. -/
theorem filter_ne_filter_eq (seen : List Field) (found : Field) (fields : List Field) :
    (fields.filter (· ≠ found)).filter (· ∉ seen) = fields.filter (· ∉ found :: seen) := by
  rw [List.filter_filter]
  apply List.filter_congr
  intro field _
  simp [not_or, Bool.and_comm]

/-- Reading goes through the fields that are still to be seen, in the order of their first
occurrence, and puts in the value that stands there. -/
theorem setAll_eq_foldlM {seen : List Field} (p : Package) {pairs : List (String × String)}
    {text : Field → String}
    (h : ∀ field ∉ seen, text field = (pairs.lookup field.name).getD "") :
    setAll seen p pairs =
      ((firstFields pairs).filter (· ∉ seen)).foldlM
        (fun p field => p.set field (text field)) p := by
  induction pairs generalizing seen p with
  | nil => rfl
  | cons pair pairs ih =>
    obtain ⟨name, value⟩ := pair
    cases known : Field.ofName? name with
    | none =>
      have other : ∀ field : Field, name ≠ field.name := by
        intro field same
        rw [Field.ofName?_eq_some_iff.mpr same] at known
        cases known
      simp only [setAll, firstFields, known]
      apply ih
      intro field new
      rw [h field new, lookup_cons_of_ne (other field)]
    | some found =>
      obtain rfl := Field.ofName?_eq_some_iff.mp known
      -- the other fields are looked up behind this pair
      have behind : ∀ field ∉ seen, field ≠ found →
          text field = (pairs.lookup field.name).getD "" := by
        intro field new other
        rw [h field new, lookup_cons_of_ne (Field.name_injective.ne other.symm)]
      simp only [setAll, firstFields, known]
      by_cases old : found ∈ seen
      · rw [if_pos old, List.filter_cons_of_neg (by simp [old]), filter_ne_filter_of_mem old]
        apply ih
        intro field new
        exact behind field new fun same => new (same ▸ old)
      · have here : text found = value := by
          rw [h found old, List.lookup_cons_self, Option.getD_some]
        rw [if_neg old, List.filter_cons_of_pos (by simp [old]), filter_ne_filter_eq,
          List.foldlM_cons, here]
        cases p.set found value with
        | error e => rfl
        | ok p =>
          apply ih
          intro field new
          rw [List.mem_cons, not_or] at new
          exact behind field new.2 new.1

/-- A package is read from the first occurrences of its fields, whose values a look-up finds. -/
theorem deserialize_eq_foldlM (query : String) :
    deserialize query = (firstFields (Query.parse query)).foldlM
      (fun p field => p.set field ((Query.get? query field.name).getD "")) empty := by
  have all : (firstFields (Query.parse query)).filter (· ∉ []) =
      firstFields (Query.parse query) := by
    simp
  rw [deserialize, setAll_eq_foldlM empty fun _ _ => rfl, all]
  rfl

/-- A field without an occurrence is not found by a look-up. -/
theorem lookup_eq_none_of_not_mem_firstFields {pairs : List (String × String)} {field : Field}
    (h : field ∉ firstFields pairs) : pairs.lookup field.name = none := by
  induction pairs with
  | nil => rfl
  | cons pair pairs ih =>
    obtain ⟨name, text⟩ := pair
    have other : name ≠ field.name := by
      intro same
      rw [firstFields, Field.ofName?_eq_some_iff.mpr same] at h
      exact h List.mem_cons_self
    rw [lookup_cons_of_ne other]
    apply ih
    intro later
    apply h
    rw [firstFields]
    cases known : Field.ofName? name with
    | none => exact later
    | some found =>
      have different : field ≠ found := by
        rintro rfl
        exact other (Field.ofName?_eq_some_iff.mp known)
      exact List.mem_cons_of_mem _ (List.mem_filter.mpr ⟨later, decide_eq_true different⟩)

/-! ### One field after the other -/

/-- The package with one field taken over from another package. -/
def copy (source p : Package) : Field → Package
  | .cipherPayload => { p with cipherPayload := source.cipherPayload }
  | .wrappedKey => { p with wrappedKey := source.wrappedKey }
  | .vector => { p with vector := source.vector }
  | .version => { p with version := source.version }

theorem copy_copy_self (source p : Package) (f : Field) :
    copy source (copy source p f) f = copy source p f := by
  cases f <;> rfl

theorem copy_comm (source p : Package) (f g : Field) :
    copy source (copy source p f) g = copy source (copy source p g) f := by
  cases f <;> cases g <;> rfl

/-- If two packages agree in the fields that are not taken over, the result is the other package. -/
theorem foldl_copy_eq {source p : Package} {fields : List Field}
    (h : ∀ f ∉ fields, copy source p f = p) : fields.foldl (copy source) p = source := by
  induction fields generalizing p with
  | nil =>
    have all : ∀ f, copy source p f = p := fun f => h f List.not_mem_nil
    calc p
      _ = copy source (copy source (copy source (copy source p .cipherPayload) .wrappedKey)
            .vector) .version := by rw [all, all, all, all]
      _ = source := rfl
  | cons f fields ih =>
    apply ih
    intro g later
    by_cases same : g = f
    · rw [same]
      exact copy_copy_self source p f
    · have other : g ∉ f :: fields := by
        rw [List.mem_cons, not_or]
        exact ⟨same, later⟩
      rw [copy_comm, h g other]

/-! ### Reading what is written -/

theorem deserialize_serialize (p : Package) : deserialize (serialize p) = .ok p := by
  have fields : ∀ field : Field, Field.ofName? field.name = some field := fun _ =>
    Field.ofName?_eq_some_iff.mpr rfl
  rw [deserialize, serialize, Query.parse_encodePairs]
  simp only [Field.all, List.map_cons, List.map_nil, setAll, fields, set, value,
    decodeValue_encodeText, decodeVersion_toString, Except.map]
  rfl

end SealedLink.Package
