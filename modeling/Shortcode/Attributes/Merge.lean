import Shortcode.World

/-!
# Merging attributes with defaults

A handler declares the attributes it knows by their defaults.  `merged` has exactly those
attributes, each with the value of the tag or else its default; positional values contribute
nothing.  `Hooks.merge` lets the filter of the current configuration adjust the result, if
the merge is made for a named shortcode.
-/

namespace Shortcode

/-- The defaults, each replaced by the value that the tag gives under its name. -/
def merged (defaults : Entries Datum) (attributes : Option Attributes) : Entries Datum :=
  defaults.map fun (name, value) =>
    (name, ((attributes.bind (·.get? name)).map Datum.text).getD value)

/-- Merge attributes with defaults; a shortcode with a name has the result filtered. -/
def Hooks.merge {H : Type} {K : HookKind → Type} {σ : Type} (hooks : Hooks H K σ)
    (defaults : Entries Datum) (attributes : Option Attributes) (shortcode : Text) :
    Action (World H K σ) (Entries Datum) := do
  let result := merged defaults attributes
  if shortcode.isEmpty then return result
  match (← get).config.attributesFilter with
  | none => return result
  | some hook => hooks.attributesFilter hook result defaults attributes shortcode

end Shortcode
