import Shortcode.Entries

/-!
# Attributes

The attributes of a tag are either named values or, where no value has a name, a list of
positional values.
-/

namespace Shortcode

/-- The attributes of a tag. -/
inductive Attributes where
  /-- Values by name, in the order in which the names were first given. -/
  | named (entries : Entries Text)
  /-- Values without names, of which there may be none. -/
  | positional (values : List Text)
  deriving DecidableEq, Repr

namespace Attributes

/-- The value that a tag gives under a name. -/
def get? (name : Text) : Attributes → Option Text
  | .named entries => entries.get? name
  | .positional _ => none

end Attributes

end Shortcode
