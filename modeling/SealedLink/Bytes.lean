/-!
# Byte strings

Keys, messages, envelopes and wire forms are lists of bytes. Fields of a fixed size carry that size
in their type, so a nonce or an authentication tag cannot be built with the wrong length.

## Main definitions

* `Bytes` — byte strings
* `Octets n` — byte strings of exactly `n` bytes
* `Octets.split?` — the first `n` bytes of a byte string and the rest
* `Bytes.xor` — bytewise exclusive or
* `Bytes.ofNatLE`, `Bytes.toNatLE`, `Bytes.ofNatBE`, `Bytes.toNatBE` — numbers as bytes, least or
  most significant byte first
* `Bytes.chunks` — consecutive pieces of a given length
* `Bytes.toHex` — two lower-case hexadecimal digits per byte
-/

namespace SealedLink

/-- A byte string. -/
abbrev Bytes := List UInt8

/-- A byte string of exactly `n` bytes. -/
structure Octets (n : Nat) where
  /-- The bytes themselves. -/
  toBytes : Bytes
  length_eq : toBytes.length = n
  deriving DecidableEq

namespace Octets

variable {n : Nat}

@[ext] theorem ext {x y : Octets n} (h : x.toBytes = y.toBytes) : x = y := by
  cases x; cases y; cases h; rfl

@[simp] theorem length_toBytes (x : Octets n) : x.toBytes.length = n := x.length_eq

instance : Hashable (Octets n) where
  hash x := hash x.toBytes

/-- The byte string as `n` octets, if it has that length. -/
def ofBytes? (n : Nat) (b : Bytes) : Option (Octets n) :=
  if h : b.length = n then some ⟨b, h⟩ else none

/-- The first `n` bytes and the rest, if there are that many. -/
def split? (n : Nat) (b : Bytes) : Option (Octets n × Bytes) :=
  if h : n ≤ b.length then some (⟨b.take n, by simp [h]⟩, b.drop n) else none

theorem split?_append (x : Octets n) (b : Bytes) : split? n (x.toBytes ++ b) = some (x, b) := by
  have h : n ≤ (x.toBytes ++ b).length := by simp
  simp only [split?, dif_pos h, Option.some.injEq, Prod.mk.injEq]
  constructor
  · ext1
    exact List.take_left' x.length_eq
  · exact List.drop_left' x.length_eq

theorem eq_append_of_split? {b rest : Bytes} {x : Octets n} (h : split? n b = some (x, rest)) :
    b = x.toBytes ++ rest := by
  unfold split? at h
  split at h
  · cases h
    exact (List.take_append_drop n b).symm
  · cases h

theorem split?_eq_none_iff {b : Bytes} : split? n b = none ↔ b.length < n := by
  unfold split?
  split <;> simp <;> omega

/-- `n` zero bytes. -/
def zero (n : Nat) : Octets n := ⟨List.replicate n 0, by simp⟩

end Octets

namespace Bytes

/-- Bytewise exclusive or, as long as the shorter operand. -/
def xor (x y : Bytes) : Bytes := x.zipWith (· ^^^ ·) y

/-! ### Numbers -/

/-- The value of a byte string whose least significant byte comes first. -/
def toNatLE : Bytes → Nat
  | [] => 0
  | b :: bs => b.toNat + 256 * toNatLE bs

/-- The low `n` bytes of a number, least significant first. -/
def ofNatLE : Nat → Nat → Bytes
  | 0, _ => []
  | n + 1, x => UInt8.ofNat x :: ofNatLE n (x / 256)

/-- The value of a byte string whose most significant byte comes first. -/
def toNatBE (b : Bytes) : Nat := b.foldl (fun x b => 256 * x + b.toNat) 0

/-- The low `n` bytes of a number, most significant first. -/
def ofNatBE (n x : Nat) : Bytes := (ofNatLE n x).reverse

@[simp] theorem length_ofNatLE (n x : Nat) : (ofNatLE n x).length = n := by
  induction n generalizing x with
  | zero => rfl
  | succ n ih => simp [ofNatLE, ih]

@[simp] theorem length_ofNatBE (n x : Nat) : (ofNatBE n x).length = n := by
  simp [ofNatBE]

/-! ### Pieces and text -/

/-- Consecutive pieces of `n` bytes; the last one may be shorter. -/
def chunks (n : Nat) (b : Bytes) : List Bytes :=
  if n = 0 ∨ b = [] then [] else b.take n :: chunks n (b.drop n)
termination_by b.length
decreasing_by
  rename_i h
  have : b.length ≠ 0 := fun hb => h (.inr (List.length_eq_zero_iff.mp hb))
  simp only [List.length_drop]
  omega

/-- The hexadecimal digit of a number below sixteen. -/
def hexDigit (x : Nat) : Char := (Nat.digitChar x)

/-- Two lower-case hexadecimal digits for every byte. -/
def toHex (b : Bytes) : String :=
  String.ofList (b.flatMap fun x => [hexDigit (x.toNat / 16), hexDigit (x.toNat % 16)])

end Bytes

end SealedLink
