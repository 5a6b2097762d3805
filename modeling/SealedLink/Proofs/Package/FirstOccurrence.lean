import SealedLink.Proofs.Package.Canonical

/-!
# Only first occurrences count

Reading a package goes through the pairs of a query and remembers which fields it has seen, while a
look-up takes the first pair of a name. Both find the same values. So whether a query is read, and
as which package, depends on the four look-ups and on nothing else. The order of the fields matters
only for the error: it names the field whose value is the first that cannot be read.

## Main definitions

* `Package.IsDecimal` — the decimal numbers that may stand for a version
* `Package.Readable` — the values of a field that can be read
* `Package.Holds` — what a package holds for the first value of a field
* `Package.Reaches` — reading gets to the value of a field
* `Package.FailsFirst` — the field that an error names
* `Package.IsPassedOver` — the pairs that do not count behind others

## Main results

* `Package.exists_deserialize_iff` — a query is read if all its first values can be
* `Package.exists_reaches_of_setAll`, `Package.FailsFirst.unique` — an error names the first that
  cannot
* `Package.setAll_insert` — pairs that are passed over change nothing
* `Package.deserialize_by_first_occurrences` — all of it for `Package.deserialize`
-/

namespace SealedLink.Package

variable {p : Package} {field : Field} {text : String} {e : LaunchError}

/-! ### Values that can be read -/

/-- The text is a decimal number, perhaps after a plus sign. -/
def IsDecimal (text : String) (n : Nat) : Prop :=
  ∃ sign ∈ [[], ['+']], ∃ digits, text.toList = sign ++ digits ∧ digits ≠ [] ∧
    (∀ c ∈ digits, c.isDigit = true) ∧ Nat.ofDigitChars 10 digits 0 = n

/-- A value of a field can be read. Blanks at its ends do not count. For a version it is nothing or
a decimal number of sixteen bits, and for bytes their base64 text. -/
def Readable (field : Field) (text : String) : Prop :=
  match field with
  | .version => Text.trimBlank text = "" ∨ ∃ n ≤ 65535, IsDecimal (Text.trimBlank text) n
  | _ => ∃ b, Text.trimBlank text = Base64.encodeText b

theorem eq_row_iff {digits : List Char} {v : UInt16} :
    (∃ zeros, digits = row zeros v) ↔
      digits ≠ [] ∧ (∀ c ∈ digits, c.isDigit = true) ∧ Nat.ofDigitChars 10 digits 0 = v.toNat := by
  simp only [row_eq]
  exact exists_eq_append_toDigits_iff

theorem isNumeral_iff_isDecimal {v : UInt16} : IsNumeral v text ↔ IsDecimal text v.toNat := by
  have signed : ∀ sign : List Char, (∃ zeros, text.toList = sign ++ row zeros v) ↔
      ∃ digits, text.toList = sign ++ digits ∧ ∃ zeros, digits = row zeros v := by
    intro sign
    constructor
    · rintro ⟨zeros, same⟩
      exact ⟨_, same, zeros, rfl⟩
    · rintro ⟨_, same, zeros, rfl⟩
      exact ⟨zeros, same⟩
  simp only [IsNumeral, IsDecimal, signed, eq_row_iff]

/-- A value can be read exactly if it spells the field of some package. -/
theorem readable_iff_exists_spells :
    Readable field text ↔ ∃ source : Package, source.Spells field text := by
  cases field with
  | version =>
    simp only [Readable, Spells, isNumeral_iff_isDecimal]
    constructor
    · rintro (absent | ⟨n, small, decimal⟩)
      · exact ⟨empty, .inl ⟨absent, rfl⟩⟩
      · have exact : (UInt16.ofNat n).toNat = n :=
          UInt16.toNat_ofNat_of_lt (Nat.lt_succ_of_le small)
        exact ⟨{ empty with version := UInt16.ofNat n }, .inr (exact.symm ▸ decimal)⟩
    · rintro ⟨source, ⟨absent, -⟩ | decimal⟩
      · exact .inl absent
      · exact .inr ⟨_, Nat.le_of_lt_succ source.version.toNat_lt, decimal⟩
  | cipherPayload =>
    constructor
    · rintro ⟨b, same⟩
      exact ⟨{ empty with cipherPayload := b }, same⟩
    · rintro ⟨source, same⟩
      exact ⟨source.cipherPayload, same⟩
  | wrappedKey =>
    constructor
    · rintro ⟨b, same⟩
      exact ⟨{ empty with wrappedKey := b }, same⟩
    · rintro ⟨source, same⟩
      exact ⟨source.wrappedKey, same⟩
  | vector =>
    constructor
    · rintro ⟨b, same⟩
      exact ⟨{ empty with vector := b }, same⟩
    · rintro ⟨source, same⟩
      exact ⟨source.vector, same⟩

/-- Whether a value is put in depends on the value alone. -/
theorem exists_set_iff_readable : (∃ p', p.set field text = .ok p') ↔ Readable field text := by
  rw [readable_iff_exists_spells]
  constructor
  · rintro ⟨p', put⟩
    exact ⟨p', (set_eq_ok_iff.mp put).1⟩
  · rintro ⟨source, spelled⟩
    exact ⟨_, set_of_spells spelled p⟩

theorem exists_reason_of_decodeValue (h : decodeValue field text = .error e) :
    ∃ reason, e = .invalidInput field.name reason := by
  unfold decodeValue at h
  split at h
  · cases h
  · cases h
    exact ⟨_, rfl⟩

theorem exists_reason_of_decodeVersion (h : decodeVersion text = .error e) :
    ∃ reason, e = .invalidInput Field.version.name reason := by
  unfold decodeVersion at h
  dsimp only at h
  split at h
  · cases h
  · split at h
    · cases h
    · cases h
      exact ⟨_, rfl⟩

/-- The error for a value names its field. -/
theorem exists_reason_of_set (h : p.set field text = .error e) :
    ∃ reason, e = .invalidInput field.name reason := by
  cases field with
  | version => exact exists_reason_of_decodeVersion (map_eq_error_iff.mp h)
  | cipherPayload | wrappedKey | vector => exact exists_reason_of_decodeValue (map_eq_error_iff.mp h)

/-! ### What is read -/

/-- A package has nothing in a field. -/
def Lacks (p : Package) : Field → Prop
  | .cipherPayload => p.cipherPayload = []
  | .wrappedKey => p.wrappedKey = []
  | .vector => p.vector = []
  | .version => p.version = 0

/-- A package holds what the first value of a field stands for, and nothing if there is none. -/
def Holds (p : Package) (field : Field) : Option String → Prop
  | some text => p.Spells field text
  | none => p.Lacks field

theorem spells_empty_iff : p.Spells field "" ↔ p.Lacks field := by
  constructor
  · intro spelled
    -- the empty package is spelled by the same text, and one text is read in one way
    have read := set_of_spells spelled empty
    rw [set_of_spells (empty_spells field)] at read
    have same := Except.ok.inj read
    cases field with
    | cipherPayload => exact (congrArg cipherPayload same).symm
    | wrappedKey => exact (congrArg wrappedKey same).symm
    | vector => exact (congrArg vector same).symm
    | version => exact (congrArg version same).symm
  · intro lacks
    cases field with
    | version => exact .inl ⟨rfl, lacks⟩
    | cipherPayload | wrappedKey | vector =>
      simp only [Lacks] at lacks
      simp only [Spells, value, lacks]
      rfl

theorem holds_iff_spells {query : String} :
    p.Holds field (Query.get? query field.name) ↔ p.Spells field (firstText query field) := by
  unfold firstText
  cases Query.get? query field.name with
  | none => exact spells_empty_iff.symm
  | some text => exact Iff.rfl

theorem deserialize_eq_ok_iff_holds {query : String} :
    deserialize query = .ok p ↔ ∀ field, p.Holds field (Query.get? query field.name) := by
  simp only [holds_iff_spells]
  exact deserialize_eq_ok_iff

/-- A query is read exactly if the first values of all its fields can be. -/
theorem exists_deserialize_iff {query : String} :
    (∃ p, deserialize query = .ok p) ↔
      ∀ field text, Query.get? query (Field.name field) = some text → Readable field text := by
  simp only [deserialize_eq_ok_iff_holds]
  constructor
  · rintro ⟨p, holds⟩ field text found
    have held := holds field
    rw [found] at held
    exact readable_iff_exists_spells.mpr ⟨p, held⟩
  · intro readable
    simp only [holds_iff_spells]
    apply exists_spells
    intro field
    cases found : Query.get? query field.name with
    | none =>
      rw [firstText, found]
      exact ⟨empty, empty_spells field⟩
    | some text =>
      rw [firstText, found]
      exact readable_iff_exists_spells.mp (readable field text found)

/-- What is read depends on the four look-ups only. -/
theorem toOption_deserialize_congr {query query' : String}
    (h : ∀ field : Field, Query.get? query field.name = Query.get? query' field.name) :
    (deserialize query).toOption = (deserialize query').toOption := by
  have same : ∀ p, deserialize query = .ok p ↔ deserialize query' = .ok p := by
    intro p
    simp only [deserialize_eq_ok_iff_holds, h]
  cases read : deserialize query with
  | ok p => rw [(same p).mp read]
  | error e =>
    cases read' : deserialize query' with
    | ok p =>
      rw [(same p).mpr read'] at read
      cases read
    | error e' => rfl

/-! ### What cannot be read -/

/-- Reading reaches a value: its field has not been seen and does not occur before, and of the other
fields that have not been seen the first values before it can be read. -/
def Reaches (seen : List Field) (pairs : List (String × String)) (field : Field) (text : String) :
    Prop :=
  field ∉ seen ∧ ∃ front back, pairs = front ++ (field.name, text) :: back ∧
    (∀ pair ∈ front, pair.1 ≠ field.name) ∧
    ∀ other ∉ seen, ∀ value, Query.IsFirst front (Field.name other) value → Readable other value

/-- The first value of a field cannot be read, and the first values of all fields that occur before
it can be. -/
def FailsFirst (pairs : List (String × String)) (field : Field) : Prop :=
  ∃ text, Reaches [] pairs field text ∧ ¬ Readable field text

section Reaches

variable {seen : List Field} {pairs : List (String × String)} {name value : String}

theorem Reaches.here (new : field ∉ seen) (pairs : List (String × String)) :
    Reaches seen ((field.name, text) :: pairs) field text := by
  refine ⟨new, [], pairs, rfl, fun _ member => absurd member List.not_mem_nil, ?_⟩
  rintro other - value ⟨front, back, split, -⟩
  cases front <;> cases split

/-- A pair is passed over that belongs to no field or to one that has been seen. -/
theorem Reaches.cons_of_ne (passed : ∀ other ∉ seen, name ≠ Field.name other)
    (h : Reaches seen pairs field text) : Reaches seen ((name, value) :: pairs) field text := by
  obtain ⟨new, front, back, rfl, before, readable⟩ := h
  refine ⟨new, (name, value) :: front, back, rfl,
    List.forall_mem_cons.mpr ⟨passed field new, before⟩, ?_⟩
  intro other unseen
  simp only [← Query.lookup_eq_some_iff_isFirst, lookup_cons_of_ne (passed other unseen)] at readable ⊢
  exact readable other unseen

/-- A value that can be read is put in, and its field has been seen from then on. -/
theorem Reaches.cons_of_readable {found : Field} (put : Readable found value)
    (h : Reaches (found :: seen) pairs field text) :
    Reaches seen ((found.name, value) :: pairs) field text := by
  have apart : ∀ other ∉ found :: seen, found.name ≠ Field.name other := by
    intro other unseen same
    exact unseen (Field.name_injective same ▸ List.mem_cons_self)
  obtain ⟨new, front, back, rfl, before, readable⟩ := h
  refine ⟨fun old => new (List.mem_cons_of_mem found old), (found.name, value) :: front, back, rfl,
    List.forall_mem_cons.mpr ⟨apart field new, before⟩, ?_⟩
  intro other unseen text first
  rw [← Query.lookup_eq_some_iff_isFirst] at first
  by_cases same : other = found
  · subst same
    rw [List.lookup_cons_self] at first
    cases first
    exact put
  · have unseen' : other ∉ found :: seen := by
      rw [List.mem_cons, not_or]
      exact ⟨same, unseen⟩
    rw [lookup_cons_of_ne (apart other unseen'), Query.lookup_eq_some_iff_isFirst] at first
    exact readable other unseen' text first

/-- An error comes from a value that is reached and cannot be put in. -/
theorem exists_reaches_of_setAll (h : setAll seen p pairs = .error e) :
    ∃ field text, Reaches seen pairs field text ∧ ∃ p' : Package, p'.set field text = .error e := by
  induction pairs generalizing seen p with
  | nil => cases h
  | cons pair pairs ih =>
    obtain ⟨name, value⟩ := pair
    cases known : Field.ofName? name with
    | none =>
      simp only [setAll, known] at h
      obtain ⟨field, text, reached, refused⟩ := ih h
      refine ⟨field, text, reached.cons_of_ne fun other _ same => ?_, refused⟩
      rw [Field.ofName?_eq_some_iff.mpr same] at known
      cases known
    | some found =>
      obtain rfl := Field.ofName?_eq_some_iff.mp known
      simp only [setAll, known] at h
      by_cases old : found ∈ seen
      · rw [if_pos old] at h
        obtain ⟨field, text, reached, refused⟩ := ih h
        refine ⟨field, text, reached.cons_of_ne fun other unseen same => ?_, refused⟩
        exact unseen (Field.name_injective same ▸ old)
      · rw [if_neg old] at h
        cases put : p.set found value with
        | error fault =>
          rw [put] at h
          cases h
          exact ⟨found, value, Reaches.here old pairs, p, put⟩
        | ok p' =>
          rw [put] at h
          obtain ⟨field, text, reached, refused⟩ := ih h
          exact ⟨field, text, reached.cons_of_readable (exists_set_iff_readable.mp ⟨p', put⟩),
            refused⟩

/-- Of two values that are reached, the one behind the other makes it readable. -/
theorem Reaches.length_le {f g : Field} {front front' back back' : List (String × String)}
    {text text' : String} (split : front ++ (f.name, text) :: back = front' ++ (g.name, text') :: back')
    (before : ∀ pair ∈ front, pair.1 ≠ f.name) (fails : ¬ Readable f text)
    (readable : ∀ other value, Query.IsFirst front' (Field.name other) value → Readable other value) :
    front'.length ≤ front.length := by
  rcases List.append_eq_append_iff.mp split with ⟨rest, rfl, same⟩ | ⟨rest, rfl, -⟩
  · cases rest with
    | nil => simp
    | cons x rest =>
      obtain ⟨rfl, -⟩ := List.cons.inj same
      exact absurd (readable f text ⟨front, rest, rfl, before⟩) fails
  · simp

/-- Only one field can be the first to fail. -/
theorem FailsFirst.unique {other : Field} (h : FailsFirst pairs field)
    (h' : FailsFirst pairs other) : field = other := by
  obtain ⟨text, ⟨-, front, back, split, before, readable⟩, fails⟩ := h
  obtain ⟨text', ⟨-, front', back', split', before', readable'⟩, fails'⟩ := h'
  have both := split.symm.trans split'
  -- neither of the two places is behind the other
  have length : front.length = front'.length := Nat.le_antisymm
    (Reaches.length_le both.symm before' fails' fun other => readable other List.not_mem_nil)
    (Reaches.length_le both before fails fun other => readable' other List.not_mem_nil)
  have same := (List.append_inj both length).2
  exact Field.name_injective (congrArg Prod.fst (List.cons.inj same).1)

end Reaches

theorem failsFirst_of_deserialize {query : String} (h : deserialize query = .error e) :
    ∃ field reason, e = .invalidInput (Field.name field) reason ∧
      FailsFirst (Query.parse query) field := by
  obtain ⟨field, text, reached, p', refused⟩ := exists_reaches_of_setAll h
  obtain ⟨reason, named⟩ := exists_reason_of_set refused
  refine ⟨field, reason, named, text, reached, fun readable => ?_⟩
  obtain ⟨_, put⟩ := (exists_set_iff_readable (p := p')).mpr readable
  rw [refused] at put
  cases put

theorem deserialize_of_failsFirst {query : String} (h : FailsFirst (Query.parse query) field) :
    ∃ reason, deserialize query = .error (.invalidInput field.name reason) := by
  cases read : deserialize query with
  | ok p =>
    -- a query that is read has no such value
    obtain ⟨text, ⟨-, front, back, split, before, -⟩, fails⟩ := h
    have found : Query.get? query field.name = some text :=
      Query.lookup_eq_some_iff_isFirst.mpr ⟨front, back, split, before⟩
    exact absurd (exists_deserialize_iff.mp ⟨p, read⟩ field text found) fails
  | error e =>
    obtain ⟨other, reason, rfl, first⟩ := failsFirst_of_deserialize read
    obtain rfl := h.unique first
    exact ⟨reason, rfl⟩

/-! ### Pairs that do not count -/

/-- Behind some pairs, a pair is passed over if its name is that of no field, or of one that occurs
in them. Its value does not matter. -/
def IsPassedOver (front : List (String × String)) (pair : String × String) : Prop :=
  ∀ field : Field, pair.1 = field.name → ∃ earlier ∈ front, earlier.1 = field.name

theorem setAll_append_of_seen {seen : List Field} {inserted : List (String × String)}
    (h : ∀ pair ∈ inserted, ∀ field : Field, pair.1 = field.name → field ∈ seen) (p : Package)
    (back : List (String × String)) : setAll seen p (inserted ++ back) = setAll seen p back := by
  induction inserted with
  | nil => rfl
  | cons pair inserted ih =>
    obtain ⟨name, value⟩ := pair
    obtain ⟨first, others⟩ := List.forall_mem_cons.mp h
    rw [List.cons_append, setAll]
    cases known : Field.ofName? name with
    | none => exact ih others
    | some field =>
      dsimp only
      rw [if_pos (first field (Field.ofName?_eq_some_iff.mp known)), ih others]

/-- Pairs that are passed over change nothing, wherever they are put in. -/
theorem setAll_insert {seen : List Field} {front inserted : List (String × String)}
    (h : ∀ pair ∈ inserted, ∀ field : Field, pair.1 = field.name →
      field ∈ seen ∨ ∃ earlier ∈ front, earlier.1 = field.name) (p : Package)
    (back : List (String × String)) :
    setAll seen p (front ++ (inserted ++ back)) = setAll seen p (front ++ back) := by
  induction front generalizing seen p with
  | nil =>
    refine setAll_append_of_seen (fun pair member field named => ?_) p back
    rcases h pair member field named with old | ⟨earlier, none, -⟩
    · exact old
    · exact absurd none List.not_mem_nil
  | cons pair front ih =>
    obtain ⟨name, value⟩ := pair
    -- once the first pair has been read, its field is among those that have been seen
    have behind : ∀ seen' : List Field, (∀ field : Field, name = field.name → field ∈ seen') →
        seen ⊆ seen' → ∀ pair ∈ inserted, ∀ field : Field, pair.1 = field.name →
          field ∈ seen' ∨ ∃ earlier ∈ front, earlier.1 = field.name := by
      intro seen' here more pair member field named
      rcases h pair member field named with old | ⟨earlier, place, same⟩
      · exact .inl (more old)
      · rcases List.mem_cons.mp place with rfl | later
        · exact .inl (here field same)
        · exact .inr ⟨earlier, later, same⟩
    rw [List.cons_append, List.cons_append, setAll, setAll]
    cases known : Field.ofName? name with
    | none =>
      refine ih (behind seen (fun field same => ?_) (List.Subset.refl seen)) p
      rw [Field.ofName?_eq_some_iff.mpr same] at known
      cases known
    | some found =>
      have named : ∀ field : Field, name = field.name → field = found := by
        intro field same
        rw [Field.ofName?_eq_some_iff.mpr same] at known
        exact Option.some.inj known
      dsimp only
      by_cases old : found ∈ seen
      · rw [if_pos old, if_pos old]
        exact ih (behind seen (fun field same => named field same ▸ old) (List.Subset.refl seen)) p
      · rw [if_neg old, if_neg old]
        cases p.set found value with
        | error e => rfl
        | ok p' =>
          exact ih (behind (found :: seen) (fun field same => named field same ▸ List.mem_cons_self)
            (List.subset_cons_self found seen)) p'

theorem deserialize_insert {query query' : String} {front inserted back : List (String × String)}
    (plain : Query.parse query = front ++ back)
    (padded : Query.parse query' = front ++ (inserted ++ back))
    (passed : ∀ pair ∈ inserted, IsPassedOver front pair) :
    deserialize query' = deserialize query := by
  rw [deserialize, deserialize, plain, padded]
  exact setAll_insert (fun pair member field named => .inr (passed pair member field named)) empty back

/-! ### Reading by first occurrences -/

/-- **Only first occurrences count.** A query is read as a package exactly if the package holds what
the four look-ups find, and it is read at all exactly if the values that they find can be. If not,
the error names the field of the first value that cannot be read. Pairs of other names anywhere, and
later pairs of a field whatever their values, leave the answer as it is. -/
theorem deserialize_by_first_occurrences :
    (∀ query p, deserialize query = .ok p ↔
      ∀ field, p.Holds field (Query.get? query (Field.name field))) ∧
    (∀ query, (∃ p, deserialize query = .ok p) ↔
      ∀ field text, Query.get? query (Field.name field) = some text → Readable field text) ∧
    (∀ query query',
      (∀ field : Field, Query.get? query field.name = Query.get? query' field.name) →
      (deserialize query).toOption = (deserialize query').toOption) ∧
    (∀ query e, deserialize query = .error e → ∃ field reason,
      e = .invalidInput (Field.name field) reason ∧ FailsFirst (Query.parse query) field) ∧
    (∀ query field, FailsFirst (Query.parse query) field →
      ∃ reason, deserialize query = .error (.invalidInput field.name reason)) ∧
    (∀ query query' front inserted back, Query.parse query = front ++ back →
      Query.parse query' = front ++ (inserted ++ back) →
      (∀ pair ∈ inserted, IsPassedOver front pair) → deserialize query' = deserialize query) :=
  ⟨fun _ _ => deserialize_eq_ok_iff_holds, fun _ => exists_deserialize_iff,
    fun _ _ => toOption_deserialize_congr, fun _ _ => failsFirst_of_deserialize,
    fun _ _ => deserialize_of_failsFirst, fun _ _ _ _ _ => deserialize_insert⟩

/-- Later occurrences that cannot be read and a field of another name do not count. Of a version and
an initial vector that both cannot be read, the first in the query is named. -/
theorem later_occurrences_are_passed_over :
    deserialize "V=1&IV=AQI%3D&SEUS=AQ%3D%3D" = .ok ⟨[1], [], [1, 2], 1⟩ ∧
      deserialize "V=1&IV=AQI%3D&V=x&y=1&IV=!&SEUS=AQ%3D%3D" = .ok ⟨[1], [], [1, 2], 1⟩ ∧
      FailsFirst (Query.parse "SEUS=AQ%3D%3D&V=one&SEUS=!&IV=!") .version ∧
      ∃ reason, deserialize "SEUS=AQ%3D%3D&V=one&SEUS=!&IV=!" =
        .error (.invalidInput "V" reason) := by
  obtain ⟨read, -, -, -, named, inserted⟩ := deserialize_by_first_occurrences
  have holds : ∀ field, (⟨[1], [], [1, 2], 1⟩ : Package).Holds field
      (Query.get? "V=1&IV=AQI%3D&SEUS=AQ%3D%3D" (Field.name field)) := by
    intro field
    rw [holds_iff_spells]
    cases field with
    | version =>
      have trimmed : Text.trimBlank (firstText "V=1&IV=AQI%3D&SEUS=AQ%3D%3D" .version) = "1" := by
        decide +kernel
      rw [Spells, trimmed]
      exact .inr ⟨[], by simp, 0, rfl⟩
    | cipherPayload | wrappedKey | vector =>
      unfold Spells
      decide +kernel
  have passed : ∀ pair ∈ [("V", "x"), ("y", "1"), ("IV", "!")],
      IsPassedOver [("V", "1"), ("IV", "AQI=")] pair := by
    intro pair member field
    simp only [List.mem_cons, List.not_mem_nil, or_false] at member
    rcases member with rfl | rfl | rfl <;> cases field <;> decide
  have fails : FailsFirst (Query.parse "SEUS=AQ%3D%3D&V=one&SEUS=!&IV=!") .version := by
    have pairs : Query.parse "SEUS=AQ%3D%3D&V=one&SEUS=!&IV=!" =
        [("SEUS", "AQ=="), ("V", "one"), ("SEUS", "!"), ("IV", "!")] := by decide +kernel
    have put : Readable .cipherPayload "AQ==" := ⟨[1], by decide +kernel⟩
    have reached : Reaches [.cipherPayload] [("V", "one"), ("SEUS", "!"), ("IV", "!")] .version "one" :=
      Reaches.here (by decide) _
    rw [pairs]
    refine ⟨"one", reached.cons_of_readable put, fun readable => ?_⟩
    obtain ⟨p', read⟩ := (exists_set_iff_readable (p := empty)).mpr readable
    have refused : (empty.set .version "one").isOk = false := by decide +kernel
    rw [read] at refused
    cases refused
  have plain := (read _ _).mpr holds
  refine ⟨plain, ?_, fails, named _ _ fails⟩
  exact (inserted _ _ [("V", "1"), ("IV", "AQI=")] [("V", "x"), ("y", "1"), ("IV", "!")]
    [("SEUS", "AQ==")] (by decide +kernel) (by decide +kernel) passed).trans plain

end SealedLink.Package
