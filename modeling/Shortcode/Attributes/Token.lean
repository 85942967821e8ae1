import Shortcode.Char.Blank
import Shortcode.Char.Word
import Shortcode.Text.Pieces

/-!
# Tokens of attributes

The text of attributes consists of tokens separated by blanks.  A token is a key with a
value, `key="value"`, `key='value'` or `key=value`, or a value alone, `"value"`, `'value'`
or `value`.  Blanks may surround the equals sign.  A token is followed by a blank, which it
takes along, or by the end of the text; where no other form fits, everything up to the next
blank is a bare value.
-/

namespace Shortcode

/-- A token of the text of attributes, its value not yet unescaped. -/
inductive Token where
  | named (key value : Text)
  | positional (value : Text)
  deriving DecidableEq, Repr

namespace Token

/-- The text without its leading blanks. -/
def skipBlanks (text : Text) : Text := text.dropWhile isBlank

/-- Read a value up to the next quote, behind the quote that opens it. -/
def readQuoted (quote : Char) : Text → Option (Text × Text)
  | [] => none
  | c :: text =>
    if c = quote then some ([], text)
    else (readQuoted quote text).map fun (value, rest) => (c :: value, rest)

/-- Whether `c` may stand in a bare value behind an equals sign. -/
def isBare (c : Char) : Bool := !isBlank c && c != '\'' && c != '"'

/-- Read the blank behind a token, or the end of the text. -/
def readEnd : Text → Option Text
  | [] => some []
  | c :: text => if isBlank c then some text else none

/-- Read a value and the end of its token. -/
def ending (read : Option (Text × Text)) : Option (Text × Text) := do
  let (value, text) ← read
  let rest ← readEnd text
  return (value, rest)

/-- Read a value in quotes of either kind and the end of its token. -/
def readQuotedValue : Text → Option (Text × Text)
  | '"' :: text => ending (readQuoted '"' text)
  | '\'' :: text => ending (readQuoted '\'' text)
  | _ => none

/-- Read a bare value behind an equals sign and the end of its token. -/
def readBareValue (text : Text) : Option (Text × Text) :=
  let value := text.takeWhile isBare
  if value.isEmpty then none else ending (some (value, text.dropWhile isBare))

/-- Read a key with its value. -/
def readNamed (text : Text) : Option (Token × Text) := do
  let key := text.takeWhile isNameChar
  guard !key.isEmpty
  let text ← Text.after? ['='] (skipBlanks (text.dropWhile isNameChar))
  let text := skipBlanks text
  let (value, rest) ← (readQuotedValue text).or (readBareValue text)
  return (.named key value, rest)

/-- Read a value that stands alone. -/
def readPositional (text : Text) : Option (Token × Text) :=
  match readQuotedValue text with
  | some (value, rest) => some (.positional value, rest)
  | none =>
    let value := text.takeWhile (!isBlank ·)
    if value.isEmpty then none
    else some (.positional value, (text.dropWhile (!isBlank ·)).drop 1)

/-- Read the token at the start of a text. -/
def read (text : Text) : Option (Token × Text) := (readNamed text).or (readPositional text)

/-- The tokens of a text, in order. -/
def tokens (text : Text) : List Token := text.items read

end Token

end Shortcode
