import SealedLink.Text.Utf8

/-!
# Base64

The standard alphabet with required padding. Reading is strict: the text must be the one that
writing gives, and the first deviation found is reported with its place.

## Main definitions

* `Base64.encode` — four symbols for every three bytes, `=` filling the last group
* `Base64.Fault` — what is wrong with a text, and where
* `Base64.decode` — the bytes of a text, or its fault
-/

namespace SealedLink.Base64

/-! ### Symbols -/

/-- The symbol of a number below sixty-four. -/
def symbol (x : Nat) : UInt8 :=
  if x < 26 then UInt8.ofNat (x + 0x41)
  else if x < 52 then UInt8.ofNat (x - 26 + 0x61)
  else if x < 62 then UInt8.ofNat (x - 52 + 0x30)
  else if x = 62 then 0x2b
  else 0x2f

/-- The number a symbol stands for. -/
def sextet? (b : UInt8) : Option Nat :=
  if 0x41 ≤ b ∧ b ≤ 0x5a then some (b.toNat - 0x41)
  else if 0x61 ≤ b ∧ b ≤ 0x7a then some (b.toNat - 0x61 + 26)
  else if 0x30 ≤ b ∧ b ≤ 0x39 then some (b.toNat - 0x30 + 52)
  else if b = 0x2b then some 62
  else if b = 0x2f then some 63
  else none

/-- The padding symbol. -/
def padSymbol : UInt8 := 0x3d

/-! ### Writing -/

/-- The symbols of a byte string. -/
def encode : Bytes → Bytes
  | a :: b :: c :: rest =>
    symbol (a.toNat / 4) :: symbol (a.toNat % 4 * 16 + b.toNat / 16) ::
      symbol (b.toNat % 16 * 4 + c.toNat / 64) :: symbol (c.toNat % 64) :: encode rest
  | [a, b] =>
    [symbol (a.toNat / 4), symbol (a.toNat % 4 * 16 + b.toNat / 16), symbol (b.toNat % 16 * 4),
      padSymbol]
  | [a] => [symbol (a.toNat / 4), symbol (a.toNat % 4 * 16), padSymbol, padSymbol]
  | [] => []

/-- The symbols of a byte string, as text. -/
def encodeText (b : Bytes) : String := Text.ofAscii (encode b)

/-! ### Reading -/

/-- What is wrong with a base64 text; places count bytes from zero. -/
inductive Fault where
  /-- A byte that may not stand at its place. -/
  | invalidByte (byte : UInt8) (offset : Nat)
  /-- A group with a single symbol. -/
  | invalidLength
  /-- A last symbol whose unused bits are not zero. -/
  | invalidLastSymbol (byte : UInt8) (offset : Nat)
  /-- Symbols and padding that do not fill the last group. -/
  | invalidPadding
  deriving DecidableEq

/-- The text shown for a fault. -/
def Fault.message : Fault → String
  | invalidByte byte offset => s!"Invalid byte {byte}, offset {offset}."
  | invalidLength => "Encoded text cannot have a 6-bit remainder."
  | invalidLastSymbol byte offset => s!"Invalid last symbol {byte}, offset {offset}."
  | invalidPadding => "Invalid padding"

/-- The bytes that sextets stand for. Bits beyond the last whole byte are dropped. -/
def ofSextets : List Nat → Bytes
  | a :: b :: c :: d :: rest =>
    UInt8.ofNat (a * 4 + b / 16) :: UInt8.ofNat (b % 16 * 16 + c / 4) :: UInt8.ofNat (c % 4 * 64 + d) ::
      ofSextets rest
  | [a, b, c] => [UInt8.ofNat (a * 4 + b / 16), UInt8.ofNat (b % 16 * 16 + c / 4)]
  | [a, b] => [UInt8.ofNat (a * 4 + b / 16)]
  | _ => []

/-- The bits of the last sextet that belong to no byte are zero. -/
def isCanonicalEnd (sextets : List Nat) : Bool :=
  match sextets.length % 4, sextets.getLast? with
  | 2, some x => x % 16 == 0
  | 3, some x => x % 4 == 0
  | _, _ => true

/-- The sextets of a part that holds symbols only, counting places from `i`. -/
def readSymbols : Nat → Bytes → Except Fault (List Nat)
  | _, [] => .ok []
  | i, b :: rest =>
    match sextet? b with
    | none => .error (.invalidByte b i)
    | some x => (readSymbols (i + 1) rest).map (x :: ·)

/-- The sextets and the number of padding symbols of the last part, which begins at place `start`.
Counting from there, `i` bytes have been read, and the first padding symbol, if any, was at `pad?`.
-/
def readEnd (start : Nat) : Nat → Option Nat → Bytes → Except Fault (List Nat × Nat)
  | _, _, [] => .ok ([], 0)
  | i, pad?, b :: rest =>
    if b = padSymbol then
      if i % 4 < 2 then .error (.invalidByte padSymbol (start + pad?.getD i))
      else (readEnd start (i + 1) (some (pad?.getD i)) rest).map fun (xs, n) => (xs, n + 1)
    else match pad?, sextet? b with
      | some j, _ => .error (.invalidByte padSymbol (start + j))
      | none, none => .error (.invalidByte b (start + i))
      | none, some x => (readEnd start (i + 1) none rest).map fun (xs, n) => (x :: xs, n)

/-- Where the last part of a text of `n` bytes begins: groups of eight before it hold no padding. -/
def endStart (n : Nat) : Nat := 8 * ((n + 7) / 8 - 1)

/-- A text whose length leaves a single symbol over ends in a foreign byte or has no such length. -/
def lengthFault? (t : Bytes) : Option Fault :=
  match t.getLast? with
  | some b =>
    if t.length % 4 = 1 then
      if (sextet? b).isNone ∧ b ≠ padSymbol then some (.invalidByte b (t.length - 1))
      else some .invalidLength
    else none
  | none => none

/-- The bytes that a text of symbols stands for. -/
def decode (t : Bytes) : Except Fault Bytes := do
  if let some fault := lengthFault? t then throw fault
  let start := endStart t.length
  let front ← readSymbols 0 (t.take start)
  let (back, pads) ← readEnd start 0 none (t.drop start)
  if (back.length + pads) % 4 ≠ 0 then throw .invalidPadding
  if ¬ isCanonicalEnd back then
    let place := start + (back.length - 1)
    throw (.invalidLastSymbol (t.getD place 0) place)
  return ofSextets (front ++ back)

/-- The bytes that a base64 text stands for. -/
def decodeText (s : String) : Except Fault Bytes := decode (Text.utf8 s)

end SealedLink.Base64
