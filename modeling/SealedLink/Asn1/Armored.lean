import SealedLink.Asn1.Element
import SealedLink.Text.Armor

/-!
# Elements in armored text

An element under a label is read in one of two ways. A key is decoded as a whole, and nothing may
follow it. A certificate is decoded in pieces, only as far as it reaches and one byte further, so
what follows it is not looked at.

## Main definitions

* `Armor.element?` — the one element under a label
* `Armor.firstElement?` — the first element under a label
-/

namespace SealedLink.Armor

open Asn1 (Element)
open Base64 (Reader)

/-- The one element under a label. -/
def element? (label : String) (text : Bytes) : Option Element :=
  (decode? label text).bind Asn1.single?

/-- The number of bytes that are decoded at a time. -/
def pieceSize : Nat := 256

/-- The first element of bytes of which some are at hand and `remaining` more are to come. Pieces
are decoded until a byte after the element is seen or nothing is left. -/
def firstOfPieces? (atHand : Bytes) (remaining : Nat) (r : Reader) : Option Element :=
  if remaining = 0 then (Asn1.next? atHand).map (·.1)
  else
    match Asn1.next? atHand with
    | some (e, _ :: _) => some e
    | _ =>
      match r.take? (min pieceSize remaining) with
      | some (piece, r) => firstOfPieces? (atHand ++ piece) (remaining - pieceSize) r
      | none => none
termination_by remaining
decreasing_by
  simp only [pieceSize]
  omega

/-- The first element under a label. -/
def firstElement? (label : String) (text : Bytes) : Option Element := do
  let body ← body? label text
  firstOfPieces? [] (← Base64.byteCount? body) (Reader.ofText body)

end SealedLink.Armor
