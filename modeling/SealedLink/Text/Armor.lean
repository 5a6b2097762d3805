import SealedLink.Text.Base64.Lines

/-!
# Armored text

Keys and certificates travel as base64 text between a line that announces a label and a line that
closes it. The reading is strict: no headers, nothing after the closing line but its line ending.
Text may stand in front of the announcing line.

## Main definitions

* `Armor.body?` — the base64 text under a label
* `Armor.decode?` — the bytes under a label
-/

namespace SealedLink.Armor

open Base64 (dropEnding? dropLastEnding? Reader)

/-! ### Boundaries -/

/-- What follows `front` in a text that begins with it. -/
def dropFront? (front b : Bytes) : Option Bytes :=
  if front.isPrefixOf b then some (b.drop front.length) else none

/-- What precedes `back` in a text that ends with it. -/
def dropBack? (back b : Bytes) : Option Bytes :=
  if back.isSuffixOf b then some (b.take (b.length - back.length)) else none

/-- The line that announces a label. -/
def opening (label : String) : Bytes := Text.utf8 ("-----BEGIN " ++ label ++ "-----")

/-- The line that closes a label. -/
def closing (label : String) : Bytes := Text.utf8 ("-----END " ++ label ++ "-----")

/-- The text from the first announcing line on, whatever its label. Text in front of that line must
not hold zero bytes. -/
def dropPreamble? : (atLineStart : Bool) → Bytes → Option Bytes
  | _, [] => none
  | atLineStart, b :: rest =>
    if atLineStart && (Text.utf8 "-----BEGIN ").isPrefixOf (b :: rest) then some (b :: rest)
    else if b = 0 then none
    else dropPreamble? (b = 0x0a) rest

/-! ### The body -/

/-- The base64 text under a label, without the line ending in front of the closing line. -/
def body? (label : String) (text : Bytes) : Option Bytes := do
  let text ← dropPreamble? true text
  let text ← dropFront? (opening label) text
  let text ← dropEnding? text
  let text ← dropBack? (closing label) ((dropLastEnding? text).getD text)
  dropLastEnding? text

/-- The bytes under a label, taken at once. -/
def decode? (label : String) (text : Bytes) : Option Bytes := do
  let body ← body? label text
  let count ← Base64.byteCount? body
  (Reader.ofText body).takePieces? count count

end SealedLink.Armor
