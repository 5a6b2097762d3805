import SealedLink.Text.GraphemeExtend
import SealedLink.Text.Unprintable

/-!
# Quoted text

Text from outside is shown in a log between double quotes. Quotes, backslashes and the usual
controls have short escapes. A character that could hide or disturb the text around it, because it
has no shape of its own or joins the character before it, is shown by its code point.

## Main definitions

* `Text.escape` — a character as it is shown
* `Text.quoted` — a text as it is shown
-/

namespace SealedLink.Text

/-- A character shown by its code point. -/
def codePoint (c : Char) : List Char :=
  ['\\', 'u', '\x7b'] ++ Nat.toDigits 16 c.toNat ++ ['\x7d']

/-- A character as it is shown. -/
def escape (c : Char) : List Char :=
  match c with
  | '\x00' => ['\\', '0']
  | '\t' => ['\\', 't']
  | '\r' => ['\\', 'r']
  | '\n' => ['\\', 'n']
  | '"' => ['\\', '"']
  | '\\' => ['\\', '\\']
  | c => if isGraphemeExtend c || isUnprintable c then codePoint c else [c]

/-- A text as it is shown. -/
def quoted (s : String) : String := String.ofList ('"' :: s.toList.flatMap escape ++ ['"'])

end SealedLink.Text
