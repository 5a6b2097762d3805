import SealedLink.Proofs.Text.Form
import SealedLink.Proofs.Text.Utf8
import SealedLink.Query

/-!
# Queries are read back

The pairs of a query are found again in their order, also if the query is put between others. A
look-up then depends on the names in front only. A question mark is taken away in front of the whole
and nowhere else, so reading goes through the queries that are joined.

## Main definitions

* `Query.IsUnmarked` — a query that does not begin with a question mark
* `Query.embed` — a query between the pairs of others, possibly after a question mark
* `Query.IsFirst` — the first pair of a name, with its value
* `Query.IsWritten` — the characters that a written value consists of

## Main results

* `Query.parse_append`, `Query.parse_question` — joined queries, and queries after a question mark
* `Query.parse_named` — a written value stands for itself after any name
* `Query.parse_embed` — the pairs of an embedded query stand between those around it
* `Query.get?_embed` — an embedded query answers for its name if no pair before it has that name
* `Query.coding_laws` — what writing, joining, reading and looking up have to do with each other
-/

namespace SealedLink.Query

open Text (utf8)

/-! ### One field -/

/-- The bytes of the field of a pair. -/
def field (p : String × String) : Bytes := Form.encode (utf8 p.1) ++ 0x3d :: Form.encode (utf8 p.2)

theorem utf8_encodeValue (value : String) : utf8 (encodeValue value) = Form.encode (utf8 value) :=
  Text.utf8_ofAscii fun _ member => (Form.isPlain_of_mem_encode member).1

theorem decodeText_encode (value : String) : decodeText (Form.encode (utf8 value)) = value := by
  rw [decodeText, Form.decode_encode, Text.ofUtf8Lossy_utf8]

theorem ne_of_mem_field {p : String × String} {x : UInt8} (h : x ∈ field p) : x ≠ 0x3f := by
  rcases List.mem_append.mp h with name | rest
  · exact (Form.isPlain_of_mem_encode name).2.2.2
  · rcases List.mem_cons.mp rest with rfl | value
    · decide
    · exact (Form.isPlain_of_mem_encode value).2.2.2

/-! ### The fields of a query -/

/-- The pairs in the bytes of a query. -/
def pairs (b : Bytes) : List (String × String) := (Form.fields b).map pair

theorem pairs_append (x y : Bytes) : pairs (x ++ 0x26 :: y) = pairs x ++ pairs y := by
  rw [pairs, Form.fields_append, List.map_append]
  rfl

/-- After a name without separators a written value is the rest of the field. -/
theorem pairs_named {name : Bytes} (whole : 0x26 ∉ name) (undivided : 0x3d ∉ name)
    (value : String) :
    pairs (name ++ 0x3d :: Form.encode (utf8 value)) = [(decodeText name, value)] := by
  have written : name ++ 0x3d :: Form.encode (utf8 value) ≠ [] :=
    List.append_ne_nil_of_right_ne_nil _ (List.cons_ne_nil _ _)
  have single : 0x26 ∉ name ++ 0x3d :: Form.encode (utf8 value) := by
    rw [List.mem_append, List.mem_cons]
    rintro (before | divider | after)
    · exact whole before
    · exact absurd divider (by decide)
    · exact (Form.isPlain_of_mem_encode after).2.1 rfl
  rw [pairs, Form.fields_of_not_mem single written, List.map_singleton, pair,
    Form.cut_append undivided]
  simp only [decodeText_encode]

theorem pairs_field (p : String × String) : pairs (field p) = [p] := by
  have whole : 0x26 ∉ Form.encode (utf8 p.1) := fun member =>
    (Form.isPlain_of_mem_encode member).2.1 rfl
  have undivided : 0x3d ∉ Form.encode (utf8 p.1) := fun member =>
    (Form.isPlain_of_mem_encode member).2.2.1 rfl
  rw [field, pairs_named whole undivided, decodeText_encode]

theorem utf8_encodePairs_singleton (p : String × String) : utf8 (encodePairs [p]) = field p := by
  rw [encodePairs, List.map_singleton, String.intercalate_singleton, Text.utf8_append,
    Text.utf8_append, utf8_encodeValue, utf8_encodeValue, List.append_assoc]
  rfl

theorem utf8_encodePairs_cons (p q : String × String) (ps : List (String × String)) :
    utf8 (encodePairs (p :: q :: ps)) = field p ++ 0x26 :: utf8 (encodePairs (q :: ps)) := by
  rw [encodePairs, List.map_cons, List.map_cons, String.intercalate_cons_cons]
  rw [Text.utf8_append, Text.utf8_append, ← utf8_encodePairs_singleton, List.append_assoc]
  rfl

theorem pairs_encodePairs (ps : List (String × String)) : pairs (utf8 (encodePairs ps)) = ps := by
  induction ps with
  | nil => rfl
  | cons p ps ih =>
    cases ps with
    | nil => rw [utf8_encodePairs_singleton, pairs_field]
    | cons q ps => rw [utf8_encodePairs_cons, pairs_append, pairs_field, ih, List.singleton_append]

theorem question_not_mem_encodePairs (ps : List (String × String)) :
    0x3f ∉ utf8 (encodePairs ps) := by
  induction ps with
  | nil => exact List.not_mem_nil
  | cons p ps ih =>
    cases ps with
    | nil =>
      rw [utf8_encodePairs_singleton]
      exact fun member => ne_of_mem_field member rfl
    | cons q ps =>
      rw [utf8_encodePairs_cons, List.mem_append, List.mem_cons]
      rintro (first | separator | others)
      · exact ne_of_mem_field first rfl
      · exact absurd separator (by decide)
      · exact ih others

/-! ### Question marks -/

/-- The query does not begin with a question mark. -/
def IsUnmarked (query : String) : Prop := query.toList.head? ≠ some '?'

instance (query : String) : Decidable (IsUnmarked query) := inferInstanceAs (Decidable (_ ≠ _))

theorem isUnmarked_append {x y : String} (h : IsUnmarked x) (h' : IsUnmarked y) :
    IsUnmarked (x ++ y) := by
  rw [IsUnmarked, String.toList_append, List.head?_append]
  cases first : x.toList.head? with
  | none => exact h'
  | some c =>
    rw [Option.some_or, ← first]
    exact h

theorem isUnmarked_encodePairs (ps : List (String × String)) : IsUnmarked (encodePairs ps) := by
  intro marked
  apply question_not_mem_encodePairs ps
  rw [Text.utf8_eq_flatMap_toList]
  exact List.mem_flatMap.mpr ⟨'?', List.mem_of_head? marked, by decide⟩

theorem body_of_isUnmarked {query : String} (h : IsUnmarked query) : body query = utf8 query := by
  unfold body
  split
  · rename_i rest bytes
    exact absurd (Text.head?_of_utf8_eq_cons bytes (by decide)) h
  · rfl

theorem body_of_question (query : String) : body ("?" ++ query) = utf8 query := by
  rw [body, Text.utf8_append]
  rfl

/-- A question mark is taken away in front of the whole only. -/
theorem body_append (x : String) {y : String} (h : IsUnmarked y) :
    body (x ++ y) = body x ++ utf8 y := by
  cases bytes : utf8 x with
  | nil =>
    have joined : utf8 (x ++ y) = utf8 y := by rw [Text.utf8_append, bytes, List.nil_append]
    have rest := body_of_isUnmarked h
    unfold body at rest ⊢
    rw [joined, rest, bytes]
    rfl
  | cons b rest =>
    unfold body
    rw [Text.utf8_append, bytes, List.cons_append]
    by_cases mark : b = 0x3f
    · rw [mark]
      rfl
    · simp [mark]

/-! ### Reading joined queries -/

theorem parse_append (x : String) {y : String} (h : IsUnmarked y) :
    parse (x ++ "&" ++ y) = parse x ++ parse y := by
  have separated : IsUnmarked ("&" ++ y) := isUnmarked_append (by decide) h
  have bytes : utf8 ("&" ++ y) = 0x26 :: utf8 y := by
    rw [Text.utf8_append]
    rfl
  rw [String.append_assoc]
  change pairs (body (x ++ ("&" ++ y))) = pairs (body x) ++ pairs (body y)
  rw [body_append x separated, bytes, pairs_append, body_of_isUnmarked h]

theorem parse_question {query : String} (h : IsUnmarked query) :
    parse ("?" ++ query) = parse query := by
  rw [parse, body_of_question, ← body_of_isUnmarked h]
  rfl

theorem parse_encodePairs (ps : List (String × String)) : parse (encodePairs ps) = ps := by
  rw [parse, body_of_isUnmarked (isUnmarked_encodePairs ps)]
  exact pairs_encodePairs ps

/-- A byte behind the question mark is one of the query, so it comes from a character. -/
theorem mem_toList_of_mem_body {b : UInt8} {query : String} (h : b ∈ body query)
    (ascii : b < 0x80) : Char.ofNat b.toNat ∈ query.toList := by
  apply Text.mem_toList_of_mem_utf8 _ ascii
  unfold body at h
  split at h
  · rename_i rest bytes
    rw [bytes]
    exact List.mem_cons_of_mem _ h
  · exact h

/-- A value that is written after a name is the value of that name. -/
theorem parse_named {name : String} (whole : '&' ∉ name.toList) (undivided : '=' ∉ name.toList)
    (value : String) :
    parse (name ++ "=" ++ encodeValue value) = [(decodeText (body name), value)] := by
  have divider : IsUnmarked ("=" ++ encodeValue value) := by
    simp [IsUnmarked]
  have bytes : utf8 ("=" ++ encodeValue value) = 0x3d :: Form.encode (utf8 value) := by
    rw [Text.utf8_append, utf8_encodeValue]
    rfl
  rw [String.append_assoc]
  -- a question mark in front of the name does not count
  change pairs (body (name ++ ("=" ++ encodeValue value))) = _
  rw [body_append name divider, bytes]
  apply pairs_named
  · exact fun member => whole (mem_toList_of_mem_body member (by decide))
  · exact fun member => undivided (mem_toList_of_mem_body member (by decide))

/-! ### Embedding -/

/-- The text before an embedded query: the pairs in front of it, if there is such a part, and a
separator. -/
def lead (before : Option (List (String × String))) : String :=
  before.elim "" fun ps => encodePairs ps ++ "&"

/-- The text after an embedded query. -/
def trail (after : Option (List (String × String))) : String :=
  after.elim "" fun ps => "&" ++ encodePairs ps

/-- A query between the pairs of others, possibly after a question mark. -/
def embed (marked : Bool) (before after : Option (List (String × String))) (query : String) :
    String :=
  (if marked then "?" else "") ++ (lead before ++ (query ++ trail after))

theorem embed_none (query : String) : embed false none none query = query := by
  simp [embed, lead, trail]

theorem isUnmarked_lead (before : Option (List (String × String))) : IsUnmarked (lead before) := by
  cases before with
  | none => decide
  | some ps => exact isUnmarked_append (isUnmarked_encodePairs ps) (by decide)

theorem isUnmarked_trail (after : Option (List (String × String))) : IsUnmarked (trail after) := by
  cases after with
  | none => decide
  | some ps => exact isUnmarked_append (by decide) (isUnmarked_encodePairs ps)

theorem parse_lead_append (before : Option (List (String × String))) {query : String}
    (h : IsUnmarked query) : parse (lead before ++ query) = before.getD [] ++ parse query := by
  cases before with
  | none => simp [lead]
  | some ps => rw [lead, Option.elim_some, parse_append _ h, parse_encodePairs, Option.getD_some]

theorem parse_append_trail (query : String) (after : Option (List (String × String))) :
    parse (query ++ trail after) = parse query ++ after.getD [] := by
  cases after with
  | none => simp [trail]
  | some ps =>
    rw [trail, Option.elim_some, ← String.append_assoc, parse_append _ (isUnmarked_encodePairs ps),
      parse_encodePairs, Option.getD_some]

/-- The pairs of an embedded query stand in their order between those around it. -/
theorem parse_embed (marked : Bool) (before after : Option (List (String × String)))
    (ps : List (String × String)) :
    parse (embed marked before after (encodePairs ps)) =
      before.getD [] ++ (ps ++ after.getD []) := by
  have inner : IsUnmarked (encodePairs ps ++ trail after) :=
    isUnmarked_append (isUnmarked_encodePairs ps) (isUnmarked_trail after)
  have found : parse (lead before ++ (encodePairs ps ++ trail after)) =
      before.getD [] ++ (ps ++ after.getD []) := by
    rw [parse_lead_append before inner, parse_append_trail, parse_encodePairs]
  cases marked with
  | true => exact (parse_question (isUnmarked_append (isUnmarked_lead before) inner)).trans found
  | false =>
    rw [← found, embed, if_neg Bool.false_ne_true, String.empty_append]

/-- An embedded query answers for the name of its pair, unless a pair before it has that name. -/
theorem get?_embed (marked : Bool) {before : Option (List (String × String))}
    (after : Option (List (String × String))) {name : String} (value : String)
    (h : ∀ p ∈ before.getD [], p.1 ≠ name) :
    get? (embed marked before after (encodePairs [(name, value)])) name = some value := by
  -- the pairs in front answer for other names only
  have absent : (before.getD []).lookup name = none := by
    rw [List.lookup_eq_none_iff]
    intro p member
    exact bne_iff_ne.mpr (h p member).symm
  rw [get?, parse_embed, List.lookup_append, absent, Option.none_or, List.singleton_append,
    List.lookup_cons_self]

/-! ### The laws of queries -/

/-- The first pair with a name has a value. -/
def IsFirst (ps : List (String × String)) (name value : String) : Prop :=
  ∃ front back, ps = front ++ (name, value) :: back ∧ ∀ p ∈ front, p.1 ≠ name

theorem lookup_eq_some_iff_isFirst {ps : List (String × String)} {name value : String} :
    ps.lookup name = some value ↔ IsFirst ps name value := by
  rw [List.lookup_eq_some_iff, IsFirst]
  simp only [bne_iff_ne, ne_comm]

theorem hasValue_iff {query name : String} :
    hasValue query name = true ↔ ∃ value, get? query name = some value ∧ value ≠ "" := by
  simp [hasValue, Option.any_eq_true]

/-- The characters of written values: ASCII letters and digits, `*`, `-`, `.`, `_`, `+` and `%`. -/
def IsWritten (c : Char) : Prop := c.isAlphanum ∨ c ∈ ['*', '-', '.', '_', '+', '%']

instance (c : Char) : Decidable (IsWritten c) := inferInstanceAs (Decidable (_ ∨ _))

theorem isWritten_of_mem_encodeValue {value : String} {c : Char}
    (h : c ∈ (encodeValue value).toList) : IsWritten c := by
  have every : ∀ n < 256, Form.isWritten (UInt8.ofNat n) = true →
      IsWritten (Char.ofNat (UInt8.ofNat n).toNat) := by
    decide +kernel
  rw [encodeValue, Text.ofAscii, String.toList_ofList] at h
  obtain ⟨b, member, rfl⟩ := List.mem_map.mp h
  have this := every b.toNat b.toNat_lt
  rw [UInt8.ofNat_toNat] at this
  exact this (Form.isWritten_of_mem_encode member)

/-- What is written is read back. Joined queries are read one after the other, and one question mark
in front of them does not count. A look-up finds the first pair of a name. A written value consists
of characters that nothing separates at, so after a name it is read to its end. -/
theorem coding_laws :
    (∀ ps, parse (encodePairs ps) = ps) ∧
    (∀ ps name value, get? (encodePairs ps) name = some value ↔ IsFirst ps name value) ∧
    (∀ x y, IsUnmarked y → parse (x ++ "&" ++ y) = parse x ++ parse y) ∧
    (∀ query, IsUnmarked query → parse ("?" ++ query) = parse query) ∧
    (∀ query name value, get? query name = some value ↔ IsFirst (parse query) name value) ∧
    (∀ value, ∀ c ∈ (encodeValue value).toList, IsWritten c) ∧
    (∀ name value, '&' ∉ name.toList → '=' ∉ name.toList →
      parse (name ++ "=" ++ encodeValue value) = [(decodeText (body name), value)]) := by
  refine ⟨parse_encodePairs, ?_, fun x y => parse_append x, fun query => parse_question, ?_,
    fun value c => isWritten_of_mem_encodeValue, ?_⟩
  · intro ps name value
    rw [get?, parse_encodePairs, lookup_eq_some_iff_isFirst]
  · intro query name value
    exact lookup_eq_some_iff_isFirst
  · intro name value whole undivided
    exact parse_named whole undivided value

/-- A question mark inside a query is part of a value, and so is an ampersand that is written there.
-/
theorem inner_marks_are_read :
    IsUnmarked "b=?%26" ∧ parse ("?a=1&=" ++ "&" ++ "b=?%26") = [("a", "1"), ("", ""), ("b", "?&")] ∧
      parse ("?" ++ "b=?%26") = [("b", "?&")] ∧
      '&' ∉ "b".toList ∧ '=' ∉ "b".toList ∧
      parse ("b" ++ "=" ++ encodeValue "a&b=é") = [("b", "a&b=é")] := by
  obtain ⟨-, -, joined, marked, -, -, named⟩ := coding_laws
  have bare : IsUnmarked "b=?%26" := by decide
  have whole : '&' ∉ "b".toList := by decide
  have undivided : '=' ∉ "b".toList := by decide
  have front : parse "?a=1&=" = [("a", "1"), ("", "")] := by decide +kernel
  have back : parse "b=?%26" = [("b", "?&")] := by decide +kernel
  have name : decodeText (body "b") = "b" := by decide +kernel
  refine ⟨bare, ?_, ?_, whole, undivided, ?_⟩
  · rw [joined _ _ bare, front, back]
    rfl
  · rw [marked _ bare, back]
  · rw [named _ _ whole undivided, name]

end SealedLink.Query
