import SealedLink.Bytes

/-!
# DER elements

Key files and certificates are trees of elements in the distinguished encoding: a tag, the length of
the content in the fewest bytes, and the content. Reading is strict, so an element has one encoding.

## Main definitions

* `Asn1.Element` — a tag and a content
* `Asn1.Element.encode` — its encoding
* `Asn1.next?`, `Asn1.elements?`, `Asn1.single?` — elements read from bytes
* `Asn1.Element.sequence?`, `Asn1.Element.natural?` and others — the content as a value of a type
* `Asn1.Access`, `Asn1.context?` — an optional element with a tag of its own
-/

namespace SealedLink.Asn1

/-- A tag and a content. -/
structure Element where
  /-- The tag, one byte. -/
  tag : UInt8
  /-- The content. -/
  content : Bytes
  deriving DecidableEq

namespace Element

/-- The class of a tag: universal, application, context-specific or private. -/
def tagClass (e : Element) : Nat := e.tag.toNat / 64

/-- The content of an element with such a tag is itself a row of elements. -/
def isConstructed (e : Element) : Bool := e.tag.toNat / 32 % 2 == 1

/-- The number of a tag within its class. -/
def tagNumber (e : Element) : Nat := e.tag.toNat % 32

/-- A tag that has its meaning from its place in a structure. -/
def isContext (e : Element) : Bool := e.tagClass == 2

end Element

/-! ### Encoding -/

/-- The bytes of a number, most significant first, without leading zeros. -/
def numberBytes (n : Nat) : Bytes :=
  if n = 0 then [] else numberBytes (n / 256) ++ [UInt8.ofNat n]
termination_by n

/-- A length in the fewest bytes. -/
def encodeLength (n : Nat) : Bytes :=
  if n < 128 then [UInt8.ofNat n]
  else
    let digits := numberBytes n
    UInt8.ofNat (128 + digits.length) :: digits

/-- The encoding of an element. -/
def Element.encode (e : Element) : Bytes := e.tag :: (encodeLength e.content.length ++ e.content)

/-! ### Reading -/

/-- The universal tags of the types that keys and certificates are made of. -/
def universalTags : Bytes :=
  [0x01, 0x02, 0x03, 0x04, 0x05, 0x06, 0x09, 0x0a, 0x0c, 0x12, 0x13, 0x14, 0x15, 0x16, 0x17, 0x18,
    0x1a, 0x1e, 0x30, 0x31]

/-- A tag that may stand in front of an element. Numbers beyond thirty would need more than one
byte. -/
def isKnownTag (tag : UInt8) : Bool :=
  if tag < 0x40 then universalTags.contains tag else tag.toNat % 32 != 31

/-- A length of up to four bytes and the rest; it must be in the fewest bytes. -/
def length? : Bytes → Option (Nat × Bytes)
  | [] => none
  | first :: rest =>
    if first < 0x80 then some (first.toNat, rest)
    else
      let count := first.toNat - 128
      let n := Bytes.toNatBE (rest.take count)
      if 1 ≤ count ∧ count ≤ 4 ∧ count ≤ rest.length ∧ encodeLength n = first :: rest.take count then
        some (n, rest.drop count)
      else none

/-- The first element and the rest. -/
def next? : Bytes → Option (Element × Bytes)
  | [] => none
  | tag :: rest =>
    if isKnownTag tag then
      match length? rest with
      | some (n, rest) => if n ≤ rest.length then some (⟨tag, rest.take n⟩, rest.drop n) else none
      | none => none
    else none

/-- The elements that make up a byte string. -/
def elements? (b : Bytes) : Option (List Element) :=
  if b = [] then some []
  else
    match next? b with
    | some (e, rest) =>
      if rest.length < b.length then (elements? rest).map (e :: ·) else none
    | none => none
termination_by b.length

/-- The one element that makes up a byte string. -/
def single? (b : Bytes) : Option Element :=
  match next? b with
  | some (e, []) => some e
  | _ => none

/-! ### Contents -/

namespace Element

/-- The elements of a sequence. -/
def sequence? (e : Element) : Option (List Element) :=
  if e.tag = 0x30 then elements? e.content else none

/-- The elements of a set, in the order in which they stand. -/
def set? (e : Element) : Option (List Element) :=
  if e.tag = 0x31 then elements? e.content else none

/-- The content of an integer, which has no superfluous first byte. -/
def integer? (e : Element) : Option Bytes :=
  if e.tag = 0x02 then
    match e.content with
    | [] => none
    | [b] => some [b]
    | first :: second :: rest =>
      if (first = 0 ∧ second < 0x80) ∨ (first = 0xff ∧ 0x80 ≤ second) then none
      else some (first :: second :: rest)
  else none

/-- The value of an integer that is not negative. -/
def natural? (e : Element) : Option Nat :=
  match e.integer? with
  | some content => if content.headD 0 < 0x80 then some (Bytes.toNatBE content) else none
  | none => none

/-- The value of a boolean. -/
def boolean? (e : Element) : Option Bool :=
  if e.tag = 0x01 then
    if e.content = [0x00] then some false
    else if e.content = [0xff] then some true
    else none
  else none

/-- The number of unused bits and the bytes of a content that is a bit string. -/
def bits? (content : Bytes) : Option (Nat × Bytes) :=
  match content with
  | [] => none
  | unused :: bytes =>
    if unused.toNat ≤ 7 ∧ (unused = 0 ∨ bytes ≠ []) then some (unused.toNat, bytes) else none

/-- The number of unused bits and the bytes of a bit string. -/
def bitString? (e : Element) : Option (Nat × Bytes) := if e.tag = 0x03 then bits? e.content else none

/-- The bytes of a bit string without unused bits. -/
def wholeBytes? : Nat × Bytes → Option Bytes
  | (0, bytes) => some bytes
  | _ => none

/-- The bytes of an octet string. -/
def octetString? (e : Element) : Option Bytes := if e.tag = 0x04 then some e.content else none

end Element

/-! ### Elements with a tag of their own -/

/-- How the elements of a structure are come by. -/
inductive Access where
  /-- They are at hand, so one that is not expected can be passed over. -/
  | atHand
  /-- They are decoded one after the other, so each must be one that is expected. -/
  | inTurn
  deriving DecidableEq

/-- The element with the given context-specific number, if it comes next, and the elements after it.
Context-specific elements with lower numbers in front of it are passed over, if they can be. -/
def context? (access : Access) (number : Nat) : List Element → Option (Option Element × List Element)
  | [] => some (none, [])
  | e :: rest =>
    if e.isContext && e.tagNumber == number then some (some e, rest)
    else if e.isContext && e.tagNumber < number then
      match access with
      | .atHand => context? access number rest
      | .inTurn => none
    else some (none, e :: rest)

/-- The element inside a context-specific element that is a shell around it. -/
def Element.inner? (e : Element) : Option Element :=
  if e.isContext && e.isConstructed then single? e.content else none

end SealedLink.Asn1
