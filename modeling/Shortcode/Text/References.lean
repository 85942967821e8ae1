import Shortcode.Text.Pieces

/-!
# Bracket references

A step before the shortcodes may have written the square brackets as numeric character
references, so that they are not taken for tags.  `restoreBrackets` turns the references
back into brackets.  A text without the beginning that both references share has none of
them, and is left alone at once.
-/

namespace Shortcode

/-- The reference that stands for the opening bracket. -/
def openReference : Text := "&#91;".toList

/-- The reference that stands for the closing bracket. -/
def closeReference : Text := "&#93;".toList

/-- What both references start with. -/
def referenceStart : Text := "&#9".toList

/-- The text with the bracket references turned into brackets, the opening ones first. -/
def restoreBrackets (text : Text) : Text :=
  if Text.occursIn referenceStart text then
    Text.replaceAll closeReference [']'] (Text.replaceAll openReference ['['] text)
  else text

end Shortcode
