import SealedLink.Asn1.Element

/-!
# Object identifiers

An object identifier is a path of numbers. Its content bytes hold the first two numbers in one byte
and every further one in base 128, the high bit set on all bytes but the last. Numbers are kept in
32 bits.

## Main definitions

* `Asn1.ObjectId` — an identifier by its content bytes
* `Asn1.ObjectId.ofArcs` — the identifier of a path
* `Asn1.ObjectId.dotted` — the path as text
* `Asn1.Element.objectId?` — the identifier in an element
-/

namespace SealedLink.Asn1

/-- An object identifier. -/
structure ObjectId where
  /-- The content bytes of its element. -/
  content : Bytes
  deriving DecidableEq

namespace ObjectId

/-! ### Paths as bytes -/

/-- The digits of a number in base 128 before its last one, each with the high bit set. -/
def leadingDigits (n : Nat) : Bytes :=
  if n < 128 then [] else leadingDigits (n / 128) ++ [UInt8.ofNat (128 + n / 128 % 128)]
termination_by n

/-- A number of a path beyond the second. -/
def encodeArc (n : Nat) : Bytes := leadingDigits n ++ [UInt8.ofNat (n % 128)]

/-- The identifier of a path. -/
def ofArcs : List Nat → ObjectId
  | first :: second :: rest => ⟨UInt8.ofNat (40 * first + second) :: rest.flatMap encodeArc⟩
  | _ => ⟨[]⟩

/-! ### Bytes as paths -/

/-- The numbers in base 128 that make up a byte string, after `digits` bytes of a number with the
value `value` so far. A number has at most five bytes, the fifth of them below sixteen. -/
def readArcs? : (digits value : Nat) → Bytes → Option (List Nat)
  | 0, _, [] => some []
  | _, _, [] => none
  | digits, value, b :: rest =>
    if digits = 4 ∧ 16 ≤ b then none
    else
      let value := (value * 128 + b.toNat % 128) % 0x100000000
      if b < 0x80 then (readArcs? 0 0 rest).map (value :: ·) else readArcs? (digits + 1) value rest

/-- The path of content bytes. The first byte leaves room for forty second numbers below each of
three first ones. -/
def arcs? (content : Bytes) : Option (List Nat) :=
  match content with
  | first :: rest =>
    if first.toNat < 120 then
      (readArcs? 0 0 rest).map fun arcs => first.toNat / 40 :: first.toNat % 40 :: arcs
    else none
  | [] => none

/-- The path as text, its numbers separated by points. -/
def dotted (id : ObjectId) : String :=
  ".".intercalate (((arcs? id.content).getD []).map toString)

end ObjectId

/-- The identifier in an element: three to thirty-nine content bytes that make up a path. -/
def Element.objectId? (e : Element) : Option ObjectId :=
  if e.tag = 0x06 ∧ 3 ≤ e.content.length ∧ e.content.length ≤ 39 ∧
      (ObjectId.arcs? e.content).isSome then
    some ⟨e.content⟩
  else none

/-! ### Algorithms -/

/-- The algorithm that keys or signatures are for. -/
structure Algorithm where
  /-- Which algorithm. -/
  id : ObjectId
  /-- Its parameters. -/
  parameters : Option Element
  deriving DecidableEq

/-- The algorithm in an element; it has at most one parameter value. -/
def Element.algorithm? (e : Element) : Option Algorithm :=
  match e.sequence? with
  | some [id] => id.objectId?.map (⟨·, none⟩)
  | some [id, parameters] => id.objectId?.map (⟨·, some parameters⟩)
  | _ => none

end SealedLink.Asn1
