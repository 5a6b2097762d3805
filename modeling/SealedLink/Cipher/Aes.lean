import SealedLink.Bytes

/-!
# AES

The block cipher with keys of 128, 192 and 256 bits. A block is four columns of four bytes.
Encryption is a sequence of rounds on a block, and decryption undoes them in reverse order.

## Main definitions

* `Block` — sixteen bytes as columns
* `Block.ofBytes`, `Block.toBytes`, `Block.list` — blocks and byte strings
* `Aes.KeySchedule` — the round keys of a key
* `Aes.KeySchedule.encrypt`, `Aes.KeySchedule.decrypt` — one block
-/

namespace SealedLink

/-! ### Blocks -/

/-- Four bytes of a block. -/
structure Column where
  (r0 r1 r2 r3 : UInt8)
  deriving DecidableEq

namespace Column

/-- Bytewise exclusive or. -/
def xor (x y : Column) : Column := ⟨x.r0 ^^^ y.r0, x.r1 ^^^ y.r1, x.r2 ^^^ y.r2, x.r3 ^^^ y.r3⟩

/-- A function applied to every byte. -/
def map (f : UInt8 → UInt8) (x : Column) : Column := ⟨f x.r0, f x.r1, f x.r2, f x.r3⟩

/-- The bytes from the top down. -/
def toBytes (x : Column) : Bytes := [x.r0, x.r1, x.r2, x.r3]

end Column

/-- Sixteen bytes as four columns. -/
structure Block where
  (c0 c1 c2 c3 : Column)
  deriving DecidableEq

namespace Block

/-- The block of zeros. -/
def zero : Block := ⟨⟨0, 0, 0, 0⟩, ⟨0, 0, 0, 0⟩, ⟨0, 0, 0, 0⟩, ⟨0, 0, 0, 0⟩⟩

/-- Bytewise exclusive or. -/
def xor (x y : Block) : Block := ⟨x.c0.xor y.c0, x.c1.xor y.c1, x.c2.xor y.c2, x.c3.xor y.c3⟩

/-- A function applied to every column. -/
def map (f : Column → Column) (x : Block) : Block := ⟨f x.c0, f x.c1, f x.c2, f x.c3⟩

/-- The sixteen bytes, column by column. -/
def toBytes (x : Block) : Bytes := x.c0.toBytes ++ x.c1.toBytes ++ x.c2.toBytes ++ x.c3.toBytes

@[simp] theorem length_toBytes (x : Block) : x.toBytes.length = 16 := rfl

/-- The columns of a byte string; up to three bytes at its end belong to none. -/
def columns : Bytes → List Column
  | a :: b :: c :: d :: rest => ⟨a, b, c, d⟩ :: columns rest
  | _ => []

/-- The blocks of a list of columns; up to three columns at its end belong to none. -/
def ofColumns : List Column → List Block
  | a :: b :: c :: d :: rest => ⟨a, b, c, d⟩ :: ofColumns rest
  | _ => []

/-- The blocks of a byte string; up to fifteen bytes at its end belong to none. -/
def list (b : Bytes) : List Block := ofColumns (columns b)

/-- The first block of a byte string, zero if it has none. -/
def ofBytes (b : Bytes) : Block := (list b).headD zero

/-- The bytes of a list of blocks. -/
def bytes (blocks : List Block) : Bytes := blocks.flatMap toBytes

end Block

namespace Aes

/-! ### The substitution -/

/-- The substitution table. -/
def sboxTable : Array UInt8 := #[
    0x63, 0x7c, 0x77, 0x7b, 0xf2, 0x6b, 0x6f, 0xc5, 0x30, 0x01, 0x67, 0x2b, 0xfe, 0xd7, 0xab, 0x76,
    0xca, 0x82, 0xc9, 0x7d, 0xfa, 0x59, 0x47, 0xf0, 0xad, 0xd4, 0xa2, 0xaf, 0x9c, 0xa4, 0x72, 0xc0,
    0xb7, 0xfd, 0x93, 0x26, 0x36, 0x3f, 0xf7, 0xcc, 0x34, 0xa5, 0xe5, 0xf1, 0x71, 0xd8, 0x31, 0x15,
    0x04, 0xc7, 0x23, 0xc3, 0x18, 0x96, 0x05, 0x9a, 0x07, 0x12, 0x80, 0xe2, 0xeb, 0x27, 0xb2, 0x75,
    0x09, 0x83, 0x2c, 0x1a, 0x1b, 0x6e, 0x5a, 0xa0, 0x52, 0x3b, 0xd6, 0xb3, 0x29, 0xe3, 0x2f, 0x84,
    0x53, 0xd1, 0x00, 0xed, 0x20, 0xfc, 0xb1, 0x5b, 0x6a, 0xcb, 0xbe, 0x39, 0x4a, 0x4c, 0x58, 0xcf,
    0xd0, 0xef, 0xaa, 0xfb, 0x43, 0x4d, 0x33, 0x85, 0x45, 0xf9, 0x02, 0x7f, 0x50, 0x3c, 0x9f, 0xa8,
    0x51, 0xa3, 0x40, 0x8f, 0x92, 0x9d, 0x38, 0xf5, 0xbc, 0xb6, 0xda, 0x21, 0x10, 0xff, 0xf3, 0xd2,
    0xcd, 0x0c, 0x13, 0xec, 0x5f, 0x97, 0x44, 0x17, 0xc4, 0xa7, 0x7e, 0x3d, 0x64, 0x5d, 0x19, 0x73,
    0x60, 0x81, 0x4f, 0xdc, 0x22, 0x2a, 0x90, 0x88, 0x46, 0xee, 0xb8, 0x14, 0xde, 0x5e, 0x0b, 0xdb,
    0xe0, 0x32, 0x3a, 0x0a, 0x49, 0x06, 0x24, 0x5c, 0xc2, 0xd3, 0xac, 0x62, 0x91, 0x95, 0xe4, 0x79,
    0xe7, 0xc8, 0x37, 0x6d, 0x8d, 0xd5, 0x4e, 0xa9, 0x6c, 0x56, 0xf4, 0xea, 0x65, 0x7a, 0xae, 0x08,
    0xba, 0x78, 0x25, 0x2e, 0x1c, 0xa6, 0xb4, 0xc6, 0xe8, 0xdd, 0x74, 0x1f, 0x4b, 0xbd, 0x8b, 0x8a,
    0x70, 0x3e, 0xb5, 0x66, 0x48, 0x03, 0xf6, 0x0e, 0x61, 0x35, 0x57, 0xb9, 0x86, 0xc1, 0x1d, 0x9e,
    0xe1, 0xf8, 0x98, 0x11, 0x69, 0xd9, 0x8e, 0x94, 0x9b, 0x1e, 0x87, 0xe9, 0xce, 0x55, 0x28, 0xdf,
    0x8c, 0xa1, 0x89, 0x0d, 0xbf, 0xe6, 0x42, 0x68, 0x41, 0x99, 0x2d, 0x0f, 0xb0, 0x54, 0xbb, 0x16]

/-- The inverse of the substitution table. -/
def inverseSboxTable : Array UInt8 := #[
    0x52, 0x09, 0x6a, 0xd5, 0x30, 0x36, 0xa5, 0x38, 0xbf, 0x40, 0xa3, 0x9e, 0x81, 0xf3, 0xd7, 0xfb,
    0x7c, 0xe3, 0x39, 0x82, 0x9b, 0x2f, 0xff, 0x87, 0x34, 0x8e, 0x43, 0x44, 0xc4, 0xde, 0xe9, 0xcb,
    0x54, 0x7b, 0x94, 0x32, 0xa6, 0xc2, 0x23, 0x3d, 0xee, 0x4c, 0x95, 0x0b, 0x42, 0xfa, 0xc3, 0x4e,
    0x08, 0x2e, 0xa1, 0x66, 0x28, 0xd9, 0x24, 0xb2, 0x76, 0x5b, 0xa2, 0x49, 0x6d, 0x8b, 0xd1, 0x25,
    0x72, 0xf8, 0xf6, 0x64, 0x86, 0x68, 0x98, 0x16, 0xd4, 0xa4, 0x5c, 0xcc, 0x5d, 0x65, 0xb6, 0x92,
    0x6c, 0x70, 0x48, 0x50, 0xfd, 0xed, 0xb9, 0xda, 0x5e, 0x15, 0x46, 0x57, 0xa7, 0x8d, 0x9d, 0x84,
    0x90, 0xd8, 0xab, 0x00, 0x8c, 0xbc, 0xd3, 0x0a, 0xf7, 0xe4, 0x58, 0x05, 0xb8, 0xb3, 0x45, 0x06,
    0xd0, 0x2c, 0x1e, 0x8f, 0xca, 0x3f, 0x0f, 0x02, 0xc1, 0xaf, 0xbd, 0x03, 0x01, 0x13, 0x8a, 0x6b,
    0x3a, 0x91, 0x11, 0x41, 0x4f, 0x67, 0xdc, 0xea, 0x97, 0xf2, 0xcf, 0xce, 0xf0, 0xb4, 0xe6, 0x73,
    0x96, 0xac, 0x74, 0x22, 0xe7, 0xad, 0x35, 0x85, 0xe2, 0xf9, 0x37, 0xe8, 0x1c, 0x75, 0xdf, 0x6e,
    0x47, 0xf1, 0x1a, 0x71, 0x1d, 0x29, 0xc5, 0x89, 0x6f, 0xb7, 0x62, 0x0e, 0xaa, 0x18, 0xbe, 0x1b,
    0xfc, 0x56, 0x3e, 0x4b, 0xc6, 0xd2, 0x79, 0x20, 0x9a, 0xdb, 0xc0, 0xfe, 0x78, 0xcd, 0x5a, 0xf4,
    0x1f, 0xdd, 0xa8, 0x33, 0x88, 0x07, 0xc7, 0x31, 0xb1, 0x12, 0x10, 0x59, 0x27, 0x80, 0xec, 0x5f,
    0x60, 0x51, 0x7f, 0xa9, 0x19, 0xb5, 0x4a, 0x0d, 0x2d, 0xe5, 0x7a, 0x9f, 0x93, 0xc9, 0x9c, 0xef,
    0xa0, 0xe0, 0x3b, 0x4d, 0xae, 0x2a, 0xf5, 0xb0, 0xc8, 0xeb, 0xbb, 0x3c, 0x83, 0x53, 0x99, 0x61,
    0x17, 0x2b, 0x04, 0x7e, 0xba, 0x77, 0xd6, 0x26, 0xe1, 0x69, 0x14, 0x63, 0x55, 0x21, 0x0c, 0x7d]

/-- The substitution of a byte. -/
def sbox (b : UInt8) : UInt8 := sboxTable.getD b.toNat 0

/-- The byte with a given substitution. -/
def inverseSbox (b : UInt8) : UInt8 := inverseSboxTable.getD b.toNat 0

/-! ### The linear layers -/

/-- Multiplication by two in the field of 256 elements. -/
def double (b : UInt8) : UInt8 := (b <<< 1) ^^^ (if 0x80 ≤ b then 0x1b else 0)

/-- Multiplication by three. -/
def triple (b : UInt8) : UInt8 := double b ^^^ b

/-- Multiplication by nine. -/
def times9 (b : UInt8) : UInt8 := double (double (double b)) ^^^ b

/-- Multiplication by eleven. -/
def times11 (b : UInt8) : UInt8 := double (double (double b)) ^^^ double b ^^^ b

/-- Multiplication by thirteen. -/
def times13 (b : UInt8) : UInt8 := double (double (double b)) ^^^ double (double b) ^^^ b

/-- Multiplication by fourteen. -/
def times14 (b : UInt8) : UInt8 := double (double (double b)) ^^^ double (double b) ^^^ double b

/-- The mixing of a column. -/
def mixColumn (x : Column) : Column :=
  ⟨double x.r0 ^^^ triple x.r1 ^^^ x.r2 ^^^ x.r3,
    x.r0 ^^^ double x.r1 ^^^ triple x.r2 ^^^ x.r3,
    x.r0 ^^^ x.r1 ^^^ double x.r2 ^^^ triple x.r3,
    triple x.r0 ^^^ x.r1 ^^^ x.r2 ^^^ double x.r3⟩

/-- The column with a given mixing. -/
def unmixColumn (x : Column) : Column :=
  ⟨times14 x.r0 ^^^ times11 x.r1 ^^^ times13 x.r2 ^^^ times9 x.r3,
    times9 x.r0 ^^^ times14 x.r1 ^^^ times11 x.r2 ^^^ times13 x.r3,
    times13 x.r0 ^^^ times9 x.r1 ^^^ times14 x.r2 ^^^ times11 x.r3,
    times11 x.r0 ^^^ times13 x.r1 ^^^ times9 x.r2 ^^^ times14 x.r3⟩

/-- Row `i` of a block turned left by `i` columns. -/
def shiftRows (x : Block) : Block :=
  ⟨⟨x.c0.r0, x.c1.r1, x.c2.r2, x.c3.r3⟩, ⟨x.c1.r0, x.c2.r1, x.c3.r2, x.c0.r3⟩,
    ⟨x.c2.r0, x.c3.r1, x.c0.r2, x.c1.r3⟩, ⟨x.c3.r0, x.c0.r1, x.c1.r2, x.c2.r3⟩⟩

/-- Row `i` of a block turned right by `i` columns. -/
def unshiftRows (x : Block) : Block :=
  ⟨⟨x.c0.r0, x.c3.r1, x.c2.r2, x.c1.r3⟩, ⟨x.c1.r0, x.c0.r1, x.c3.r2, x.c2.r3⟩,
    ⟨x.c2.r0, x.c1.r1, x.c0.r2, x.c3.r3⟩, ⟨x.c3.r0, x.c2.r1, x.c1.r2, x.c0.r3⟩⟩

/-! ### Rounds -/

/-- Substitution and turning of rows. -/
def scramble (x : Block) : Block := shiftRows (x.map (Column.map sbox))

/-- The block with a given scrambling. -/
def unscramble (x : Block) : Block := (unshiftRows x).map (Column.map inverseSbox)

/-- One of the middle rounds. -/
def round (key x : Block) : Block := ((scramble x).map mixColumn).xor key

/-- The block that a middle round takes to the given one. -/
def unround (key x : Block) : Block := unscramble ((x.xor key).map unmixColumn)

/-- The round keys of a key. -/
structure KeySchedule where
  /-- The key added before the first round. -/
  first : Block
  /-- The keys of the middle rounds, in order. -/
  middle : List Block
  /-- The key of the last round, which does not mix columns. -/
  last : Block
  deriving DecidableEq

namespace KeySchedule

/-- The encryption of a block. -/
def encrypt (keys : KeySchedule) (x : Block) : Block :=
  (scramble (keys.middle.foldl (fun x key => round key x) (x.xor keys.first))).xor keys.last

/-- The block with a given encryption. -/
def decrypt (keys : KeySchedule) (x : Block) : Block :=
  (keys.middle.foldr unround (unscramble (x.xor keys.last))).xor keys.first

/-! ### Key expansion -/

/-- The round constant of index `i`, counting from one: a power of two in the field. -/
def roundConstant : Nat → UInt8
  | 0 | 1 => 1
  | i + 2 => double (roundConstant (i + 1))

/-- The change of the preceding column before it enters column `i` of the schedule of a key of
`size` columns. -/
def feed (size i : Nat) (x : Column) : Column :=
  if i % size = 0 then
    let turned : Column := ⟨x.r1, x.r2, x.r3, x.r0⟩
    (turned.map sbox).xor ⟨roundConstant (i / size), 0, 0, 0⟩
  else if 6 < size ∧ i % size = 4 then x.map sbox
  else x

/-- The `count` columns that follow a window of the preceding `size` columns, the first of them
being column `i` of the schedule. -/
def expand (size : Nat) : (i : Nat) → (window : List Column) → (count : Nat) → List Column
  | _, _, 0 => []
  | i, window, count + 1 =>
    let zero : Column := ⟨0, 0, 0, 0⟩
    let next := (window.headD zero).xor (feed size i (window.getLastD zero))
    next :: expand size (i + 1) (window.tail ++ [next]) count

/-- The round keys of a key, which has sixteen, twenty-four or thirty-two bytes. -/
def ofKey? (key : Bytes) : Option KeySchedule :=
  if key.length = 16 ∨ key.length = 24 ∨ key.length = 32 then
    let columns := Block.columns key
    let size := columns.length
    match Block.ofColumns (columns ++ expand size size columns (3 * size + 28)) with
    | first :: rest => some ⟨first, rest.dropLast, rest.getLastD Block.zero⟩
    | [] => none
  else none

end KeySchedule

end Aes

end SealedLink
