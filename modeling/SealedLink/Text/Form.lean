import SealedLink.Bytes

/-!
# Form coding

The coding of query fields as `application/x-www-form-urlencoded`, over bytes: fields are separated
by `&`, a name ends at the first `=`, a space is written `+`, and bytes that may not stand for
themselves are written as `%` with two hexadecimal digits.

## Main definitions

* `Form.encode`, `Form.decode` — one name or value
* `Form.fields` — the non-empty fields of a query
* `Form.cut` — a field divided at its first `=`
-/

namespace SealedLink.Form

/-! ### One name or value -/

/-- Bytes that stand for themselves: ASCII letters, digits and `*`, `-`, `.`, `_`. -/
def isUnreserved (b : UInt8) : Bool :=
  (0x41 ≤ b && b ≤ 0x5a) || (0x61 ≤ b && b ≤ 0x7a) || (0x30 ≤ b && b ≤ 0x39) ||
    b == 0x2a || b == 0x2d || b == 0x2e || b == 0x5f

/-- The upper-case hexadecimal digit of a number below sixteen. -/
def hexDigit (x : Nat) : UInt8 := if x < 10 then UInt8.ofNat (x + 0x30) else UInt8.ofNat (x - 10 + 0x41)

/-- The number of a hexadecimal digit of either case. -/
def hexValue? (b : UInt8) : Option Nat :=
  if 0x30 ≤ b ∧ b ≤ 0x39 then some (b.toNat - 0x30)
  else if 0x41 ≤ b ∧ b ≤ 0x46 then some (b.toNat - 0x41 + 10)
  else if 0x61 ≤ b ∧ b ≤ 0x66 then some (b.toNat - 0x61 + 10)
  else none

/-- One byte of a name or value as it is written. -/
def encodeByte (b : UInt8) : Bytes :=
  if isUnreserved b then [b]
  else if b = 0x20 then [0x2b]
  else [0x25, hexDigit (b.toNat / 16), hexDigit (b.toNat % 16)]

/-- A name or value as it is written. -/
def encode (b : Bytes) : Bytes := b.flatMap encodeByte

/-- The byte that `%` and two digits stand for. -/
def escaped? (high low : UInt8) : Option UInt8 :=
  match hexValue? high, hexValue? low with
  | some h, some l => some (UInt8.ofNat (16 * h + l))
  | _, _ => none

/-- The bytes that a written name or value stands for. A `%` without two digits stands for itself.
-/
def decode : Bytes → Bytes
  | 0x25 :: high :: low :: rest =>
    match escaped? high low with
    | some b => b :: decode rest
    | none => 0x25 :: decode (high :: low :: rest)
  | b :: rest => (if b = 0x2b then 0x20 else b) :: decode rest
  | [] => []

/-! ### Fields -/

/-- The parts of a byte string between separators; there is one more part than separators. -/
def split (separator : UInt8) : Bytes → List Bytes
  | [] => [[]]
  | b :: rest =>
    if b = separator then [] :: split separator rest
    else match split separator rest with
      | part :: parts => (b :: part) :: parts
      | [] => [[b]]

/-- The non-empty fields of a query. -/
def fields (query : Bytes) : List Bytes := (split 0x26 query).filter (· ≠ [])

/-- The name and the value of a field, divided at its first `=`. -/
def cut (field : Bytes) : Bytes × Bytes :=
  (field.takeWhile (· ≠ 0x3d), (field.dropWhile (· ≠ 0x3d)).drop 1)

end SealedLink.Form
