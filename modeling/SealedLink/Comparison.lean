import SealedLink.Bytes
import SealedLink.CryptoError
import SealedLink.Text.Utf8

/-!
# Comparison under a length bound

Secrets are compared by a scan that always visits the same number of bytes: both operands are padded
to the caller's bound, and the differences of all bytes are collected before anything is decided.
The lengths take part too, since padding alone would confuse an operand with its own extension by
padding bytes.

## Main definitions

* `boundedEq` — equality of two byte strings that must not exceed a bound
* `boundedTextEq` — the same for the UTF-8 bytes of two texts
-/

namespace SealedLink

namespace Comparison

/-- The byte that fills an operand up to the bound. -/
def padByte : UInt8 := 0x1c

/-- The operand filled up to `bound` bytes. -/
def padTo (bound : Nat) (b : Bytes) : Bytes := b ++ List.replicate (bound - b.length) padByte

/-- All bits in which two byte strings of one length differ somewhere. -/
def differences (x y : Bytes) : UInt8 := (Bytes.xor x y).foldl (· ||| ·) 0

end Comparison

open Comparison in
/-- Equality of two byte strings of at most `bound` bytes; the first operand over the bound is
refused. -/
def boundedEq (first second : Bytes) (bound : Nat) : Except CryptoError Bool :=
  if first.length > bound then .error (.lengthExceeded "first" first.length bound)
  else if second.length > bound then .error (.lengthExceeded "second" second.length bound)
  else .ok (first.length == second.length &&
    differences (padTo bound first) (padTo bound second) == 0)

/-- Equality of two texts of at most `bound` bytes each. -/
def boundedTextEq (first second : String) (bound : Nat) : Except CryptoError Bool :=
  boundedEq (Text.utf8 first) (Text.utf8 second) bound

end SealedLink
