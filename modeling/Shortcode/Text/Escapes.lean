import Shortcode.Text.Pieces
import Shortcode.Text.Bytes

/-!
# Backslash escapes

In the values of attributes a backslash starts an escape.  `\x` with one or two hexadecimal
digits and `\` with one to three octal digits denote a byte; adjacent bytes are decoded
together, so that a character may be given by the bytes of its UTF-8 form.  `\a`, `\b`,
`\f`, `\n`, `\r`, `\t` and `\v` denote control characters, a backslash before any other
character denotes that character, and a backslash at the very end denotes nothing.

`unescape` resolves all escapes of a text.
-/

namespace Shortcode

/-- An escape: a byte, a character, or a backslash with nothing behind it. -/
inductive Escape where
  | byte (b : UInt8)
  | char (c : Char)
  | dangling
  deriving DecidableEq, Repr

/-- The value of a hexadecimal digit of either case. -/
def hexValue? (c : Char) : Option Nat :=
  if '0' ≤ c ∧ c ≤ '9' then some (c.toNat - '0'.toNat)
  else if 'a' ≤ c ∧ c ≤ 'f' then some (c.toNat - 'a'.toNat + 10)
  else if 'A' ≤ c ∧ c ≤ 'F' then some (c.toNat - 'A'.toNat + 10)
  else none

/-- The value of an octal digit. -/
def octalValue? (c : Char) : Option Nat :=
  if '0' ≤ c ∧ c ≤ '7' then some (c.toNat - '0'.toNat) else none

/-- Read further digits of a number whose digits so far are worth `value`, at most `limit`
of them, and give back the text behind them. -/
def readDigits (digit? : Char → Option Nat) (base : Nat) : Nat → Nat → Text → Nat × Text
  | 0, value, text => (value, text)
  | _ + 1, value, [] => (value, [])
  | limit + 1, value, c :: text =>
    match digit? c with
    | some d => readDigits digit? base limit (value * base + d) text
    | none => (value, c :: text)

/-- Read a number of at least one and at most `limit + 1` digits. -/
def readNumber? (digit? : Char → Option Nat) (base limit : Nat) : Text → Option (Nat × Text)
  | [] => none
  | c :: text => (digit? c).map fun d => readDigits digit? base limit d text

/-- The character that a letter behind a backslash denotes. -/
def escapedChar : Char → Char
  | 'a' => Char.ofNat 0x07
  | 'b' => Char.ofNat 0x08
  | 't' => Char.ofNat 0x09
  | 'n' => Char.ofNat 0x0A
  | 'v' => Char.ofNat 0x0B
  | 'f' => Char.ofNat 0x0C
  | 'r' => Char.ofNat 0x0D
  | c => c

/-- The number of a byte escape, by the text behind its backslash. -/
def readByte? : Text → Option (Nat × Text)
  | 'x' :: text => readNumber? hexValue? 16 1 text
  | text => readNumber? octalValue? 8 2 text

/-- Read the escape at the start of a text. -/
def readEscape : Text → Option (Escape × Text)
  | '\\' :: text =>
    match readByte? text with
    | some (number, rest) => some (.byte (UInt8.ofNat number), rest)
    | none =>
      match text with
      | [] => some (.dangling, [])
      | c :: rest => some (.char (escapedChar c), rest)
  | _ => none

/-- The text of pieces that follow the bytes `pending`, the last of them first. -/
def resolveAfter (pending : List UInt8) : List (Piece Escape) → Text
  | [] => Text.ofBytes pending.reverse
  | .item (.byte b) :: pieces => resolveAfter (b :: pending) pieces
  | .item (.char c) :: pieces => Text.ofBytes pending.reverse ++ c :: resolveAfter [] pieces
  | .item .dangling :: pieces => Text.ofBytes pending.reverse ++ resolveAfter [] pieces
  | .char c :: pieces => Text.ofBytes pending.reverse ++ c :: resolveAfter [] pieces

/-- The text with every escape resolved. -/
def unescape (text : Text) : Text := resolveAfter [] (Text.pieces readEscape text)

end Shortcode
