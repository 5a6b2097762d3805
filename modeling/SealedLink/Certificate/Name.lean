import SealedLink.Asn1.Registry
import SealedLink.Text.Utf8

/-!
# Distinguished names

The subject of a certificate is a row of levels, and every level a set of attributes. As text the
levels are written from the last to the first. An attribute is written by name and value if its
identifier has a name and its value a written form, and by its identifier and the digits of its
encoding if not.

## Main definitions

* `Certificate.Attribute` — an identifier and a value
* `Certificate.escapeValue` — a value as it is written
* `Certificate.Name.text` — a distinguished name as text
* `Certificate.Name.ofElement?` — the distinguished name in an element
-/

namespace SealedLink.Certificate

open Asn1 (Element ObjectId)

/-- An attribute of a distinguished name. -/
structure Attribute where
  /-- What the attribute says. -/
  id : ObjectId
  /-- Its value, of any type. -/
  value : Element
  deriving DecidableEq

/-- A distinguished name: its levels from the top, each a set of attributes. -/
abbrev Name := List (List Attribute)

/-! ### Values as text -/

/-- Letters, digits and the marks that a printable string may hold. -/
def isPrintableByte (b : UInt8) : Bool :=
  (0x41 ≤ b && b ≤ 0x5a) || (0x61 ≤ b && b ≤ 0x7a) || (0x30 ≤ b && b ≤ 0x39) ||
    (Text.utf8 " \x27()+,-./:=?").contains b

/-- The text of a value, if it is a string of a type with a written form. -/
def textValue? (e : Element) : Option String :=
  if e.tag = 0x0c then Text.ofUtf8? e.content
  else if e.tag = 0x13 then
    if e.content.all isPrintableByte then some (Text.ofAscii e.content) else none
  else if e.tag = 0x14 ∨ e.tag = 0x16 then
    if e.content.all (· < 0x80) then some (Text.ofAscii e.content) else none
  else none

/-- A character of a value as it is written, at the first place of the value or the last. -/
def escapeChar (isFirst isLast : Bool) (c : Char) : List Char :=
  if c = '#' ∧ isFirst then ['\\', '#']
  else if c = ' ' ∧ (isFirst ∨ isLast) then ['\\', ' ']
  else if c ∈ ['"', '+', ',', ';', '<', '>', '\\'] then ['\\', c]
  else if c.toNat < 0x20 ∨ c.toNat = 0x7f then
    '\\' :: (Bytes.toHex [UInt8.ofNat c.toNat]).toList
  else [c]

/-- The characters of a value as they are written. -/
def escapeChars : (isFirst : Bool) → List Char → List Char
  | _, [] => []
  | isFirst, c :: rest => escapeChar isFirst rest.isEmpty c ++ escapeChars false rest

/-- A value as it is written. -/
def escapeValue (s : String) : String := String.ofList (escapeChars true s.toList)

/-- An attribute as text. -/
def Attribute.text (a : Attribute) : String :=
  match a.id.name?, textValue? a.value with
  | some name, some value => name ++ "=" ++ escapeValue value
  | _, _ => a.id.dotted ++ "=#" ++ Bytes.toHex a.value.encode

namespace Name

/-- A distinguished name as text: its levels from the bottom. -/
def text (name : Name) : String :=
  ",".intercalate (name.reverse.map fun level => "+".intercalate (level.map Attribute.text))

/-! ### Reading -/

/-- The attribute in an element. -/
def attribute? (e : Element) : Option Attribute :=
  match e.sequence? with
  | some [id, value] => id.objectId?.map (⟨·, value⟩)
  | _ => none

/-- Byte strings in the order of their bytes. -/
def bytesLe : Bytes → Bytes → Bool
  | [], _ => true
  | _ :: _, [] => false
  | a :: as, b :: bs => a < b || (a == b && bytesLe as bs)

/-- The level in an element: its attributes in the order of their encodings, none of them twice. -/
def level? (e : Element) : Option (List Attribute) := do
  let elements ← e.set?
  let sorted := elements.mergeSort fun x y => bytesLe x.encode y.encode
  let attributes ← sorted.mapM attribute?
  if attributes.Nodup then some attributes else none

/-- The distinguished name in an element. -/
def ofElement? (e : Element) : Option Name := do (← e.sequence?).mapM level?

end Name

end SealedLink.Certificate
