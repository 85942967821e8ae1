import Shortcode.Text.Basic

/-!
# Bytes and texts

`utf8 text` is the UTF-8 form of a text.  A run of bytes is read back by `ofBytes`: as
UTF-8 if it is well formed, and otherwise each byte as the character of the same number.
`ofBytes_utf8` says that this undoes the encoding.
-/

namespace Shortcode

namespace Text

/-- The bytes of the UTF-8 form of a text. -/
def utf8 (text : Text) : List UInt8 := text.flatMap String.utf8EncodeChar

/-- The text of a run of bytes: its UTF-8 reading, or one character for each byte. -/
def ofBytes (bytes : List UInt8) : Text :=
  match bytes.toByteArray.utf8Decode? with
  | some text => text.toList
  | none => bytes.map fun b => Char.ofNat b.toNat

@[simp]
theorem ofBytes_utf8 (text : Text) :
  ofBytes text.utf8 = text
  := by
  have decoded : text.utf8.toByteArray.utf8Decode? = some text.toArray :=
    List.utf8Decode?_utf8Encode
  simp only [ofBytes, decoded]

end Text

end Shortcode
