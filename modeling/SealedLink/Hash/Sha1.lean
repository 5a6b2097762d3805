import SealedLink.Hash.Padding

/-!
# SHA-1

Used only inside OAEP key wrapping, where its weakness against collisions does not matter.

## Main definitions

* `Sha1.compress` — one block worked into the chaining state
* `Sha1.hash` — the digest of a message
-/

namespace SealedLink.Sha1

open Hash (rotateLeft wordBytes)

/-- The chaining state, five words. -/
structure State where
  (a b c d e : UInt32)
  deriving DecidableEq

/-- The state before the first block. -/
def initial : State :=
  ⟨0x67452301, 0xefcdab89, 0x98badcfe, 0x10325476, 0xc3d2e1f0⟩

/-- The mixing function and the constant of round `t`, one of eighty. -/
def mix (t : Nat) (b c d : UInt32) : UInt32 × UInt32 :=
  if t < 20 then ((b &&& c) ||| (~~~b &&& d), 0x5a827999)
  else if t < 40 then (b ^^^ c ^^^ d, 0x6ed9eba1)
  else if t < 60 then ((b &&& c) ||| (b &&& d) ||| (c &&& d), 0x8f1bbcdc)
  else (b ^^^ c ^^^ d, 0xca62c1d6)

/-- Round `t` with the schedule word `w`. -/
def round (s : State) (t : Nat) (w : UInt32) : State :=
  let (f, k) := mix t s.b s.c s.d
  ⟨rotateLeft s.a 5 + f + s.e + k + w, s.a, rotateLeft s.b 30, s.c, s.d⟩

/-- The schedule word that follows a window of sixteen words. -/
def nextWord (window : List UInt32) : UInt32 :=
  rotateLeft (window.getD 13 0 ^^^ window.getD 8 0 ^^^ window.getD 2 0 ^^^ window.headD 0) 1

/-- Wordwise sum of two states. -/
def State.add (s t : State) : State :=
  ⟨s.a + t.a, s.b + t.b, s.c + t.c, s.d + t.d, s.e + t.e⟩

/-- One block of sixty-four bytes worked into the state. -/
def compress (s : State) (block : Bytes) : State :=
  let step := fun (p : State × List UInt32) t =>
    (round p.1 t (p.2.headD 0), p.2.tail ++ [nextWord p.2])
  s.add ((List.range 80).foldl step (s, Hash.words block)).1

/-- The state as twenty bytes. -/
def State.toOctets (s : State) : Octets 20 :=
  ⟨wordBytes s.a ++ wordBytes s.b ++ wordBytes s.c ++ wordBytes s.d ++ wordBytes s.e, rfl⟩

/-- The SHA-1 digest of a message. -/
def hash (message : Bytes) : Octets 20 :=
  ((Bytes.chunks 64 (Hash.pad message)).foldl compress initial).toOctets

end SealedLink.Sha1
