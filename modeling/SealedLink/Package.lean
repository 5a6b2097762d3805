import SealedLink.LaunchError
import SealedLink.Query
import SealedLink.Text.Base64
import SealedLink.Text.Blank
import SealedLink.Text.Quoted

/-!
# Launch packages

A link under key pairs carries a package in four query fields: the encrypted payload, the wrapped
session key, the initial vector, and the protocol version. Only the first occurrence of a field
counts, and other fields are passed over.

## Main definitions

* `Package` — the parts of a package
* `Package.Field` — the four query fields
* `Package.serialize`, `Package.deserialize` — packages as queries
* `Package.isSealed` — a query has all four fields
-/

namespace SealedLink

/-- The parts of a launch package. -/
structure Package where
  /-- The encrypted payload. -/
  cipherPayload : Bytes
  /-- The session key, encrypted to the recipient. -/
  wrappedKey : Bytes
  /-- The initial vector of the encryption. -/
  vector : Bytes
  /-- The protocol version. -/
  version : UInt16
  deriving DecidableEq

namespace Package

/-- The package with nothing in it. -/
def empty : Package := ⟨[], [], [], 0⟩

/-! ### Fields -/

/-- The query fields of a package. -/
inductive Field where
  | cipherPayload
  | wrappedKey
  | vector
  | version
  deriving DecidableEq

namespace Field

/-- The name of a field in a query. -/
def name : Field → String
  | cipherPayload => "SEUS"
  | wrappedKey => "ESP"
  | vector => "IV"
  | version => "V"

/-- The fields in the order in which they are written. -/
def all : List Field := [cipherPayload, wrappedKey, vector, version]

/-- The field with a name. -/
def ofName? (name : String) : Option Field := all.find? (·.name == name)

end Field

/-! ### Versions as text -/

/-- The value of a row of decimal digits; nothing for other text or none. -/
def decimal? (digits : List Char) : Option Nat :=
  if digits ≠ [] ∧ digits.all (fun c => '0' ≤ c && c ≤ '9') then
    some (digits.foldl (fun n c => 10 * n + (c.toNat - '0'.toNat)) 0)
  else none

/-- The version in a text: decimal digits, perhaps after a plus sign, below 2¹⁶. -/
def version? (text : String) : Option UInt16 :=
  let digits := match text.toList with
    | '+' :: rest => rest
    | all => all
  match decimal? digits with
  | some n => if n < 65536 then some (UInt16.ofNat n) else none
  | none => none

/-! ### Writing -/

/-- The value of a field as text. -/
def value (p : Package) : Field → String
  | .cipherPayload => Base64.encodeText p.cipherPayload
  | .wrappedKey => Base64.encodeText p.wrappedKey
  | .vector => Base64.encodeText p.vector
  | .version => toString p.version

/-- The query of a package. -/
def serialize (p : Package) : String :=
  Query.encodePairs (Field.all.map fun field => (field.name, p.value field))

/-! ### Reading -/

/-- The bytes in the value of a field; blanks at its ends do not count. -/
def decodeValue (field : Field) (text : String) : Except LaunchError Bytes :=
  match Base64.decodeText (Text.trimBlank text) with
  | .ok bytes => .ok bytes
  | .error fault => .error (.invalidInput field.name s!"invalid base64: {fault.message}")

/-- The version in the value of its field; blanks at its ends do not count, and nothing is zero. -/
def decodeVersion (text : String) : Except LaunchError UInt16 :=
  let text := Text.trimBlank text
  if text = "" then .ok 0
  else
    match version? text with
    | some version => .ok version
    | none =>
      let shown := Text.quoted text
      .error (.invalidInput Field.version.name s!"{shown} is not a version number")

/-- The package with the value of one field put in. -/
def set (p : Package) (field : Field) (text : String) : Except LaunchError Package :=
  match field with
  | .cipherPayload => (decodeValue field text).map fun bytes => { p with cipherPayload := bytes }
  | .wrappedKey => (decodeValue field text).map fun bytes => { p with wrappedKey := bytes }
  | .vector => (decodeValue field text).map fun bytes => { p with vector := bytes }
  | .version => (decodeVersion text).map fun version => { p with version }

/-- The package with the values of pairs put in, each field once and unless it has been `seen`. -/
def setAll : (seen : List Field) → Package → List (String × String) → Except LaunchError Package
  | _, p, [] => .ok p
  | seen, p, (name, text) :: pairs =>
    match Field.ofName? name with
    | none => setAll seen p pairs
    | some field =>
      if field ∈ seen then setAll seen p pairs
      else
        match p.set field text with
        | .error e => .error e
        | .ok p => setAll (field :: seen) p pairs

/-- The package in a query; a field that is absent is empty or zero. -/
def deserialize (query : String) : Except LaunchError Package := setAll [] empty (Query.parse query)

/-- The query has a value for each of the four fields. -/
def isSealed (query : String) : Bool := Field.all.all fun field => Query.hasValue query field.name

end Package

end SealedLink
