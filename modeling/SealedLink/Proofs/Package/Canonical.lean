import SealedLink.Proofs.Failure
import SealedLink.Proofs.Package

/-!
# The text of a package

Reading is lenient, so a package has many texts: other fields and later occurrences do not count,
blanks at the ends of a value do not, and a version may be missing or begin with a plus sign and
zeros. Apart from that the values must be the written ones. One of these texts is written, and
whatever was read is written as that one.

## Main definitions

* `Package.firstText` — the text of a field in a query
* `Package.Spells` — what may stand for the value that a package has in a field
* `Package.canonical` — the query that is written for what a query is read as

## Main results

* `Package.deserialize_eq_ok_iff` — a query is read as a package exactly if it spells all its fields
* `Package.serialize_injective` — two packages do not have the same query
* `Package.canonical_laws` — writing and reading, one after the other, in both orders
-/

namespace SealedLink.Package

variable {p p' source : Package} {field : Field} {text : String}

/-! ### Values that spell a field -/

/-- The text of a field in a query: the value of its first pair, nothing if there is none. -/
def firstText (query : String) (field : Field) : String := (Query.get? query field.name).getD ""

/-- A text stands for the value of a field. Blanks at its ends do not count. For a version it is a
numeral, or nothing for zero; for bytes there is one text. -/
def Spells (p : Package) (field : Field) (text : String) : Prop :=
  match field with
  | .version => Text.trimBlank text = "" ∧ p.version = 0 ∨ IsNumeral p.version (Text.trimBlank text)
  | field => Text.trimBlank text = p.value field

theorem empty_spells (field : Field) : empty.Spells field "" := by
  cases field with
  | version => exact .inl ⟨rfl, rfl⟩
  | cipherPayload | wrappedKey | vector => rfl

/-- A value that is put in is spelled by its text, and the other fields stay. -/
theorem set_eq_ok_iff :
    p.set field text = .ok p' ↔ p'.Spells field text ∧ copy p' p field = p' := by
  cases field with
  | version =>
    simp only [set, map_eq_ok_iff, decodeVersion_eq_ok_iff]
    constructor
    · rintro ⟨v, read, rfl⟩
      exact ⟨read, rfl⟩
    · rintro ⟨spelled, same⟩
      exact ⟨p'.version, spelled, same⟩
  | cipherPayload | wrappedKey | vector =>
    simp only [set, map_eq_ok_iff, decodeValue_eq_ok_iff]
    constructor
    · rintro ⟨b, read, rfl⟩
      exact ⟨read, rfl⟩
    · rintro ⟨spelled, same⟩
      exact ⟨_, spelled, same⟩

theorem set_of_spells (h : source.Spells field text) (p : Package) :
    p.set field text = .ok (copy source p field) := by
  have spelled : (copy source p field).Spells field text := by
    cases field <;> exact h
  have rest : copy (copy source p field) p field = copy source p field := by
    cases field <;> rfl
  exact set_eq_ok_iff.mpr ⟨spelled, rest⟩

/-- Texts that each spell their field in some package spell all fields of one. -/
theorem exists_spells {texts : Field → String}
    (h : ∀ field, ∃ source : Package, source.Spells field (texts field)) :
    ∃ source : Package, ∀ field, source.Spells field (texts field) := by
  obtain ⟨payload, spelled⟩ := h .cipherPayload
  obtain ⟨key, spelled'⟩ := h .wrappedKey
  obtain ⟨vector, spelled''⟩ := h .vector
  obtain ⟨version, spelled'''⟩ := h .version
  refine ⟨⟨payload.cipherPayload, key.wrappedKey, vector.vector, version.version⟩, ?_⟩
  intro field
  cases field <;> assumption

/-! ### Reading -/

theorem foldlM_of_spells {texts : Field → String} {fields : List Field}
    (h : ∀ field ∈ fields, source.Spells field (texts field)) (p : Package) :
    fields.foldlM (fun p field => p.set field (texts field)) p =
      .ok (fields.foldl (copy source) p) := by
  induction fields generalizing p with
  | nil => rfl
  | cons field fields ih =>
    obtain ⟨first, others⟩ := List.forall_mem_cons.mp h
    rw [List.foldlM_cons, set_of_spells first]
    exact ih others _

theorem exists_spells_of_foldlM {texts : Field → String} {fields : List Field}
    (h : fields.foldlM (fun p field => p.set field (texts field)) p = .ok p') :
    ∀ field ∈ fields, ∃ source : Package, source.Spells field (texts field) := by
  induction fields generalizing p with
  | nil => exact fun _ member => absurd member List.not_mem_nil
  | cons field fields ih =>
    rw [List.foldlM_cons, bind_eq_ok_iff] at h
    obtain ⟨next, put, others⟩ := h
    exact List.forall_mem_cons.mpr ⟨⟨next, (set_eq_ok_iff.mp put).1⟩, ih others⟩

/-- A field without an occurrence has no text. -/
theorem firstText_of_not_mem {query : String} (h : field ∉ firstFields (Query.parse query)) :
    firstText query field = "" := by
  rw [firstText, Query.get?, lookup_eq_none_of_not_mem_firstFields h]
  rfl

theorem deserialize_of_spells {query : String}
    (h : ∀ field, p.Spells field (firstText query field)) : deserialize query = .ok p := by
  -- what is not in the query stays as it is in the empty package
  have absent : ∀ field ∉ firstFields (Query.parse query), copy p empty field = empty := by
    intro field absent
    have spelled := h field
    rw [firstText_of_not_mem absent] at spelled
    have read := set_of_spells spelled empty
    rw [set_of_spells (empty_spells field)] at read
    rw [← Except.ok.inj read]
    cases field <;> rfl
  rw [deserialize_eq_foldlM]
  exact (foldlM_of_spells (fun field _ => h field) empty).trans (congrArg _ (foldl_copy_eq absent))

/-- A query is read as a package exactly if its texts spell all the fields of the package. -/
theorem deserialize_eq_ok_iff {query : String} :
    deserialize query = .ok p ↔ ∀ field, p.Spells field (firstText query field) := by
  refine ⟨?_, deserialize_of_spells⟩
  intro read
  -- the texts spell the fields of some package, and that is the one that is read
  obtain ⟨source, spelled⟩ : ∃ source : Package,
      ∀ field, source.Spells field (firstText query field) := by
    apply exists_spells
    intro field
    by_cases present : field ∈ firstFields (Query.parse query)
    · rw [deserialize_eq_foldlM] at read
      exact exists_spells_of_foldlM read field present
    · rw [firstText_of_not_mem present]
      exact ⟨empty, empty_spells field⟩
  obtain rfl : source = p := Except.ok.inj ((deserialize_of_spells spelled).symm.trans read)
  exact spelled

/-! ### Writing again -/

theorem serialize_injective : Function.Injective serialize := by
  intro p p' same
  have read := deserialize_serialize p
  rw [same, deserialize_serialize] at read
  exact (Except.ok.inj read).symm

/-- The query that is written for the package in a query. -/
def canonical (query : String) : Except LaunchError String := (deserialize query).map serialize

theorem canonical_eq_ok_iff {query : String} :
    canonical query = .ok text ↔ ∃ p, deserialize query = .ok p ∧ serialize p = text := by
  rw [canonical, map_eq_ok_iff]

/-- What is written is read back, so packages have different texts. What is read is read again from
what is written for it, and writing it again changes nothing. A query is rewritten to the text of a
package exactly if its own texts spell the package: those of the first occurrences of its fields. -/
theorem canonical_laws :
    (∀ p, deserialize (serialize p) = .ok p) ∧
    Function.Injective serialize ∧
    (∀ query p, deserialize query = .ok p → deserialize (serialize p) = .ok p) ∧
    (∀ query text, canonical query = .ok text → canonical text = .ok text) ∧
    (∀ query p, canonical query = .ok (serialize p) ↔
      ∀ field, p.Spells field (firstText query field)) := by
  refine ⟨deserialize_serialize, serialize_injective, fun _ p _ => deserialize_serialize p, ?_, ?_⟩
  · intro query text written
    obtain ⟨p, -, rfl⟩ := canonical_eq_ok_iff.mp written
    exact canonical_eq_ok_iff.mpr ⟨p, deserialize_serialize p, rfl⟩
  · intro query p
    rw [← deserialize_eq_ok_iff, canonical_eq_ok_iff]
    constructor
    · rintro ⟨other, read, same⟩
      rwa [serialize_injective same] at read
    · intro read
      exact ⟨p, read, rfl⟩

/-- A query with all that is passed over: a question mark, a field of another name, blanks, a second
vector that is no base64, a sign and zeros, and no wrapped key. -/
def untidyQuery : String := "?x=1&IV=%20AAE=%0A&V=%2B001&IV=!&SEUS=%09%2B/8%3D"

/-- The package in it. -/
def untidyPackage : Package := ⟨[0xfb, 0xff], [], [0x00, 0x01], 1⟩

theorem untidy_query_is_rewritten :
    deserialize untidyQuery = .ok untidyPackage ∧
      deserialize (serialize untidyPackage) = .ok untidyPackage ∧
      canonical untidyQuery = .ok (serialize untidyPackage) ∧
      canonical (serialize untidyPackage) = .ok (serialize untidyPackage) := by
  obtain ⟨-, -, again, stable, rewritten⟩ := canonical_laws
  have spelled : ∀ field, untidyPackage.Spells field (firstText untidyQuery field) := by
    intro field
    cases field with
    | version =>
      have trimmed : Text.trimBlank (firstText untidyQuery .version) = "+001" := by decide +kernel
      refine .inr ⟨['+'], by simp, 2, ?_⟩
      rw [trimmed]
      decide +kernel
    | cipherPayload | wrappedKey | vector =>
      unfold Spells
      decide +kernel
  have read := deserialize_of_spells spelled
  have written := (rewritten _ _).mpr spelled
  exact ⟨read, again _ _ read, written, stable _ _ written⟩

end SealedLink.Package
