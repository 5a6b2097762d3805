import SealedLink.Text.Form
import SealedLink.Text.Utf8

/-!
# Query strings

A query is a text of fields with names and values, possibly after one question mark. Names may
repeat; a look-up finds the first.

## Main definitions

* `Query.parse` — the pairs of a query, in order
* `Query.get?` — the value of the first pair with a given name
* `Query.hasValue` — that value exists and is not empty
* `Query.encodeValue` — a text as the value of a field
* `Query.encodePairs` — the query of a list of pairs
-/

namespace SealedLink.Query

/-- The bytes of a query after its question mark. -/
def body (query : String) : Bytes :=
  match Text.utf8 query with
  | 0x3f :: rest => rest
  | bytes => bytes

/-- The text that a written name or value stands for. -/
def decodeText (b : Bytes) : String := Text.ofUtf8Lossy (Form.decode b)

/-- The pair that a field stands for. -/
def pair (field : Bytes) : String × String :=
  let (name, value) := Form.cut field
  (decodeText name, decodeText value)

/-- The pairs of a query, in order. -/
def parse (query : String) : List (String × String) := (Form.fields (body query)).map pair

/-- The value of the first pair with the given name. -/
def get? (query name : String) : Option String := (parse query).lookup name

/-- The first pair with the given name has a value that is not empty. -/
def hasValue (query name : String) : Bool := (get? query name).any (· ≠ "")

/-- A text as the value of a field. -/
def encodeValue (value : String) : String := Text.ofAscii (Form.encode (Text.utf8 value))

/-- The query of a list of pairs. -/
def encodePairs (pairs : List (String × String)) : String :=
  "&".intercalate (pairs.map fun (name, value) => encodeValue name ++ "=" ++ encodeValue value)

end SealedLink.Query
