import Shortcode.Char.Printable
import Shortcode.Text.Basic

/-!
# Quoted texts

Messages show a text between quotes: single ones, unless the text holds a single quote and
no double one.  The quote in use, the backslash, tabs and line ends are escaped by a
backslash, and characters that are not printable by their number in hexadecimal.
-/

namespace Shortcode

/-- The last `width` hexadecimal digits of a number. -/
def hexDigits : Nat → Nat → Text
  | 0, _ => []
  | width + 1, n => hexDigits width (n / 16) ++ [Nat.digitChar (n % 16)]

/-- The quote that a text is put in. -/
def quoteFor (text : Text) : Char :=
  if text.elem '\'' && !text.elem '"' then '"' else '\''

/-- How a character is written between two quotes. -/
def quotedChar (quote c : Char) : Text :=
  if c = quote ∨ c = '\\' then ['\\', c]
  else if c = '\t' then "\\t".toList
  else if c = '\n' then "\\n".toList
  else if c = '\r' then "\\r".toList
  else if isPrintable c then [c]
  else if c.toNat < 0x100 then "\\x".toList ++ hexDigits 2 c.toNat
  else if c.toNat < 0x10000 then "\\u".toList ++ hexDigits 4 c.toNat
  else "\\U".toList ++ hexDigits 8 c.toNat

/-- The text as it is shown between quotes. -/
def quoted (text : Text) : Text :=
  let quote := quoteFor text
  quote :: text.flatMap (quotedChar quote) ++ [quote]

end Shortcode
