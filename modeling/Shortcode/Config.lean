import Shortcode.Text.Basic

/-!
# Configurations

A configuration holds up to four hooks.  Two of them stand before and behind the call of a
handler, one chooses the names whose tags are stripped, and one adjusts merged attributes.
What a hook is, is left open: `K kind` is the type of the hooks of a kind.
-/

namespace Shortcode

/-- The places where a hook can be set. -/
inductive HookKind where
  /-- Before the handler of a tag, which it may replace. -/
  | preDispatch
  /-- Behind the handler of a tag, whose output it changes. -/
  | postDispatch
  /-- Before tags are stripped, to choose their names. -/
  | stripFilter
  /-- Behind the merge of attributes with defaults. -/
  | attributesFilter
  deriving DecidableEq, Repr

namespace HookKind

/-- The kinds of hooks in their usual order. -/
def all : List HookKind := [.preDispatch, .postDispatch, .stripFilter, .attributesFilter]

/-- The name of a place. -/
def label : HookKind → Text
  | .preDispatch => "pre_dispatch".toList
  | .postDispatch => "post_dispatch".toList
  | .stripFilter => "strip_filter".toList
  | .attributesFilter => "attributes_filter".toList

end HookKind

/-- The hooks in force; the default configuration has none. -/
structure Config (K : HookKind → Type) where
  preDispatch : Option (K .preDispatch) := none
  postDispatch : Option (K .postDispatch) := none
  stripFilter : Option (K .stripFilter) := none
  attributesFilter : Option (K .attributesFilter) := none

namespace Config

variable {K : HookKind → Type}

/-- The configuration without hooks. -/
def default : Config K := {}

/-- The hook at a place, if one is set. -/
def hook? (config : Config K) : (kind : HookKind) → Option (K kind)
  | .preDispatch => config.preDispatch
  | .postDispatch => config.postDispatch
  | .stripFilter => config.stripFilter
  | .attributesFilter => config.attributesFilter

/-- A hook is set at the place. -/
def isSet (config : Config K) (kind : HookKind) : Bool := (config.hook? kind).isSome

/-- The places where a hook is set, in order. -/
def setKinds (config : Config K) : List HookKind := HookKind.all.filter config.isSet

end Config

end Shortcode
