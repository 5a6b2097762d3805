import SealedLink.Bytes

/-!
# Text as UTF-8 bytes

## Main definitions

* `Text.utf8` — the bytes of a text
* `Text.ofUtf8?` — the text of well-formed bytes, nothing otherwise
* `Text.ofUtf8Lossy` — the text of any bytes, with U+FFFD for every maximal ill-formed part
* `Text.ofAscii` — the text with one character per byte
-/

namespace SealedLink.Text

/-- The UTF-8 bytes of a text. -/
def utf8 (s : String) : Bytes := s.toByteArray.data.toList

/-- The text whose UTF-8 bytes are given, if they are well formed. -/
def ofUtf8? (b : Bytes) : Option String := String.fromUTF8? ⟨b.toArray⟩

/-- The text with one character for every byte. -/
def ofAscii (b : Bytes) : String := String.ofList (b.map fun x => Char.ofNat x.toNat)

/-! ### Replacing ill-formed parts -/

/-- The character whose encoding stands at the front of a byte string. -/
def headChar? (b : Bytes) : Option Char := ByteArray.utf8DecodeChar? ⟨(b.take 4).toArray⟩ 0

/-- Continuation bytes of an encoded character. -/
def isContinuation (b : UInt8) : Bool := 0x80 ≤ b && b ≤ 0xbf

/-- A lead byte of a three- or four-byte character followed by a second byte that it admits. -/
def isPairStart (lead second : UInt8) : Bool :=
  if lead == 0xe0 then 0xa0 ≤ second && second ≤ 0xbf
  else if lead == 0xed then 0x80 ≤ second && second ≤ 0x9f
  else if lead == 0xf0 then 0x90 ≤ second && second ≤ 0xbf
  else if lead == 0xf4 then 0x80 ≤ second && second ≤ 0x8f
  else 0xe0 ≤ lead && lead ≤ 0xf4 && isContinuation second

/-- The length of the longest initial part of an ill-formed byte string that begins a well-formed
character, and at least one. -/
def illFormedLength : Bytes → Nat
  | lead :: second :: rest =>
    if isPairStart lead second then
      if 0xf0 ≤ lead && rest.head?.any isContinuation then 3 else 2
    else 1
  | _ => 1

theorem illFormedLength_pos (b : Bytes) : 0 < illFormedLength b := by
  unfold illFormedLength
  split
  · split
    · split <;> decide
    · decide
  · decide

/-- The characters of a byte string, U+FFFD standing for each maximal ill-formed part. -/
def lossyChars (b : Bytes) : List Char :=
  if b = [] then []
  else match headChar? b with
    | some c => c :: lossyChars (b.drop c.utf8Size)
    | none => '\uFFFD' :: lossyChars (b.drop (illFormedLength b))
termination_by b.length
decreasing_by
  all_goals
    have hb : b.length ≠ 0 := fun h => by simp_all [List.length_eq_zero_iff]
    simp only [List.length_drop]
  · have := c.utf8Size_pos
    omega
  · have := illFormedLength_pos b
    omega

/-- The text of any byte string, U+FFFD standing for each maximal ill-formed part. -/
def ofUtf8Lossy (b : Bytes) : String := String.ofList (lossyChars b)

end SealedLink.Text
