import Shortcode.Attributes.Basic
import Shortcode.Attributes.Token
import Shortcode.Char.Case
import Shortcode.Text.Escapes
import Shortcode.Text.Spaces

/-!
# Reading attributes

`Attributes.parse` turns the text of a tag's attributes into named or positional values.
Keys are lower-cased, and the first value under a key is kept.  As soon as one value is
named, the positional ones are dropped.  Escapes in values are resolved, and a value that
opens markup without closing it is emptied.
-/

namespace Shortcode

/-- Every `<` of the text has a `>` somewhere behind it; `inside` says that a `<` has been
seen and its `>` has not. -/
def closesMarkupAfter (inside : Bool) : Text → Bool
  | [] => !inside
  | c :: text =>
    if inside then closesMarkupAfter (c != '>') text else closesMarkupAfter (c == '<') text

/-- The text closes all markup that it opens. -/
def closesMarkup (text : Text) : Bool := closesMarkupAfter false text

/-- The value, or the empty text if the value opens markup without closing it. -/
def rejectOpenMarkup (value : Text) : Text := if closesMarkup value then value else []

namespace Attributes

/-- The named values among tokens: lower-cased keys, each with the first value given. -/
def namedOf (tokens : List Token) : Entries Text :=
  tokens.foldl
    (fun entries token =>
      match token with
      | .named key value => entries.putNew (lower key) (unescape value)
      | .positional _ => entries)
    []

/-- The positional values among tokens; those that are empty as written are left out. -/
def positionalOf (tokens : List Token) : List Text :=
  tokens.filterMap fun
    | .named _ _ => none
    | .positional value => if value.isEmpty then none else some (unescape value)

/-- The attributes that tokens stand for. -/
def ofTokens (tokens : List Token) : Attributes :=
  match namedOf tokens with
  | [] => .positional ((positionalOf tokens).map rejectOpenMarkup)
  | entries => .named (entries.map fun (key, value) => (key, rejectOpenMarkup value))

/-- The attributes written in a text. -/
def parse (text : Text) : Attributes := ofTokens (Token.tokens (normalizeSpaces text))

end Attributes

end Shortcode
