import Shortcode.Entries
import Shortcode.Fault

/-!
# Data

A `Datum` is a plain value: what handlers give back, and what the defaults of attributes and
the filters on them may hold.  A text is shown as it is at the outermost level, and between
quotes inside a list or a mapping.
-/

namespace Shortcode

/-- A plain value. -/
inductive Datum where
  | null
  | bool (b : Bool)
  | int (n : Int)
  | text (t : Text)
  | list (members : List Datum)
  | dict (entries : List (Text × Datum))
  deriving Repr

namespace Datum

/-- The kind of a value. -/
def kind : Datum → ValueKind
  | .null => .nothing
  | .bool _ => .truth
  | .int _ => .integer
  | .text _ => .text
  | .list _ => .list
  | .dict _ => .mapping

/-- The value counts as absent: it is null, false, zero or empty. -/
def isBlank : Datum → Bool
  | .null => true
  | .bool b => !b
  | .int n => n == 0
  | .text t => t.isEmpty
  | .list members => members.isEmpty
  | .dict entries => entries.isEmpty

mutual

/-- The value as it is written inside a list or a mapping. -/
def literal : Datum → Text
  | .null => "None".toList
  | .bool b => if b then "True".toList else "False".toList
  | .int n => (toString n).toList
  | .text t => quoted t
  | .list members => '[' :: Text.join ", ".toList (literals members) ++ [']']
  | .dict entries => '\x7b' :: Text.join ", ".toList (entryLiterals entries) ++ ['\x7d']

/-- The members of a list as they are written. -/
def literals : List Datum → List Text
  | [] => []
  | member :: members => literal member :: literals members

/-- The entries of a mapping as they are written. -/
def entryLiterals : List (Text × Datum) → List Text
  | [] => []
  | (key, value) :: entries =>
    (quoted key ++ ": ".toList ++ literal value) :: entryLiterals entries

end

/-- The value as a text. -/
def shown : Datum → Text
  | .text t => t
  | value => value.literal

/-- The text that stands for a value in an output: nothing for null. -/
def inserted : Datum → Text
  | .null => []
  | value => value.shown

end Datum

end Shortcode
