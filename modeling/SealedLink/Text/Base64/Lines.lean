import SealedLink.Text.Base64

/-!
# Base64 in lines

A long base64 text is broken into lines of sixty-four symbols, only the last of them shorter. Its
bytes are taken in pieces of any length. A piece is decoded in strides: the whole groups of four
symbols that lie in one line and fill the piece, and one more group where the piece ends within its
bytes. Padding may end a stride, so it is accepted at the end of the text, and within it only where
a stride happens to end.

## Main definitions

* `Base64.dropEnding?`, `Base64.dropLastEnding?` — a text without a line ending at its front or its
  end
* `Base64.nextLine?`, `Base64.symbols?` — the lines of a text
* `Base64.byteCount?` — the number of bytes that a text announces
* `Base64.Reader` — the part of a text that has not been taken
* `Base64.Reader.take?`, `Base64.Reader.takePieces?` — the next bytes, at once or in pieces
-/

namespace SealedLink.Base64

/-! ### Lines -/

/-- What follows the line ending at the front of a text: LF, CR or both. -/
def dropEnding? : Bytes → Option Bytes
  | 0x0a :: rest => some rest
  | 0x0d :: 0x0a :: rest => some rest
  | 0x0d :: rest => some rest
  | _ => none

/-- What precedes the line ending at the end of a text. -/
def dropLastEnding? (b : Bytes) : Option Bytes :=
  match b.reverse with
  | 0x0a :: 0x0d :: rest => some rest.reverse
  | 0x0a :: rest => some rest.reverse
  | 0x0d :: rest => some rest.reverse
  | _ => none

/-- The number of symbols in a full line. -/
def lineWidth : Nat := 64

/-- The first line of a text and the text after it. A line that is not the last is full and has an
ending; the last may have one. The line is empty only if nothing but an ending is left. -/
def nextLine? (text : Bytes) : Option (Bytes × Bytes) :=
  match text.drop lineWidth with
  | [] => some ((dropLastEnding? text).getD text, [])
  | rest => (dropEnding? rest).map (text.take lineWidth, ·)

/-- The symbols of all lines of a text. -/
def symbols? (text : Bytes) : Option Bytes :=
  match nextLine? text with
  | none => none
  | some (line, rest) =>
    if line = [] then some []
    else if rest.length < text.length then (symbols? rest).map (line ++ ·)
    else none
termination_by text.length

/-- The number of bytes that a text announces: three for every group of four symbols but the last,
and those of the last group, which must be a group with or without padding. -/
def byteCount? (text : Bytes) : Option Nat := do
  let symbols ← symbols? text
  let groups := (symbols.length - 1) / 4
  let last ← (decode (symbols.drop (4 * groups))).toOption
  return 3 * groups + last.length

/-! ### Pieces -/

/-- The part of a text that has not been taken. -/
structure Reader where
  /-- The bytes of a decoded group that are left over. -/
  leftOver : Bytes
  /-- The rest of the line that is being read. -/
  line : Bytes
  /-- The text after that line. -/
  text : Bytes
  deriving DecidableEq

namespace Reader

/-- A text of which nothing has been taken. -/
def ofText (text : Bytes) : Reader := ⟨[], [], text⟩

/-- The number of bytes of text that are left. -/
def size (r : Reader) : Nat := r.line.length + r.text.length

/-- The next line is at hand if the present one is used up and text is left. That text must hold a
line. -/
def advance? (r : Reader) : Option Reader :=
  if r.line = [] ∧ r.text ≠ [] then
    match nextLine? r.text with
    | some (line, text) => if line = [] then none else some { r with line, text }
    | none => none
  else some r

/-- The bytes of the first `count` groups of the line, and what is left. -/
def takeGroups? (count : Nat) (r : Reader) : Option (Bytes × Reader) :=
  (decode (r.line.take (4 * count))).toOption.map (·, { r with line := r.line.drop (4 * count) })

/-- The bytes left over from a decoded group, at most `count`, and what is left. -/
def takeLeftOver (count : Nat) (r : Reader) : Bytes × Reader :=
  (r.leftOver.take count, { r with leftOver := r.leftOver.drop count })

/-- The next `count` bytes and what is left: what was left over, then the groups of one line that
fit, then a group of which only a part may be needed, and so on. -/
def take? (count : Nat) (r : Reader) : Option (Bytes × Reader) := do
  if count = 0 then return ([], r)
  let (front, start) := r.takeLeftOver count
  let inLine ← start.advance?
  let groups := min (inLine.line.length / 4) ((count - front.length) / 3)
  let (stride, afterStride) ← inLine.takeGroups? groups
  let missing := count - front.length - stride.length
  if missing = 0 then return (front ++ stride, afterStride)
  let (group, afterGroup) ← (← afterStride.advance?).takeGroups? 1
  let next : Reader := { afterGroup with leftOver := group }
  if next.size < r.size then
    let (rest, last) ← take? missing next
    return (front ++ stride ++ rest, last)
  else none
termination_by r.size

/-- The next `count` bytes, taken in pieces of the given size. -/
def takePieces? (pieceSize count : Nat) (r : Reader) : Option Bytes := do
  if pieceSize = 0 ∨ count = 0 then return []
  let (piece, next) ← r.take? (min pieceSize count)
  let rest ← takePieces? pieceSize (count - pieceSize) next
  return piece ++ rest
termination_by count

end Reader

end SealedLink.Base64
