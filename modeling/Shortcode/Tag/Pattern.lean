import Shortcode.Name.Rules

/-!
# The pattern of a set of names

The tags of a set of names can also be found by a regular expression.  `tagPattern` writes
its source: the names in increasing order as alternatives, each with its special characters
escaped, within the rules for brackets, attributes, content and closing mark.
-/

namespace Shortcode

/-- The characters that a backslash precedes where they stand for themselves. -/
def patternSpecials : Text :=
  "()[]{}?*+-|^$\\.&~# \t\n\r".toList ++ [Char.ofNat 0x0B, Char.ofNat 0x0C]

/-- A name as it is written in a pattern. -/
def patternName (name : Text) : Text :=
  name.flatMap fun c => if patternSpecials.elem c then ['\\', c] else [c]

/-- The opening bracket and the optional second one, in front of the names. -/
def patternOpening : Text := r"\[(\[?)(".toList

/-- What follows the names: the end of the name, the attributes up to the end of the opening
mark, the optional content with its closing mark, and the optional second bracket. -/
def patternRest : Text :=
  r")(?![\w-])([^\]/]*(?:/(?!\])[^\]/]*)*?)".toList
    ++ r"(?:(/)\]|\](?:([^\[]*+(?:\[(?!/\2\])[^\[]*+)*+)\[/\2\])?)(\]?)".toList

/-- The source of the pattern that finds the tags of the given names, of which there must be
at least one. -/
def tagPattern (names : NameSet) : Except Fault Text := do
  checkNames names
  return patternOpening ++ Text.join ['|'] (names.toList.map patternName) ++ patternRest

end Shortcode
