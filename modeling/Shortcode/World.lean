import Shortcode.Attributes.Basic
import Shortcode.Config
import Shortcode.Datum
import Shortcode.Registry
import Shortcode.Tag.Scan

/-!
# Worlds and behaviours

A pass over a text works in a `World`: the registry it reads handlers from, the current
configuration, and whatever else handlers and hooks keep track of.  Handlers and hooks may
change all of it while the pass is on.

Handlers and hooks are values of some types `H` and `K`.  A `Behaviour` gives them their
meaning, as actions on worlds, so everything that is said about a pass holds for handlers
and hooks of any kind.
-/

namespace Shortcode

variable {H : Type} {K : HookKind → Type} {σ α : Type}

/-- The state that a pass works in. -/
structure World (H : Type) (K : HookKind → Type) (σ : Type) where
  registry : Registry H
  config : Config K := .default
  /-- What handlers and hooks keep track of. -/
  rest : σ

/-- What hooks do. -/
structure Hooks (H : Type) (K : HookKind → Type) (σ : Type) where
  /-- Before dispatch: the text that replaces the tag, if it is to be replaced. -/
  preDispatch : K .preDispatch → Text → Attributes → Occurrence →
    Action (World H K σ) (Option Text)
  /-- Behind dispatch: the output that takes the place of the handler's. -/
  postDispatch : K .postDispatch → Text → Text → Attributes → Occurrence →
    Action (World H K σ) Text
  /-- The names whose tags are stripped, given the registered names and the text. -/
  stripFilter : K .stripFilter → NameSet → Text → Action (World H K σ) (List Text)
  /-- The attributes that take the place of merged ones, given the defaults, the attributes
  of the tag and its name. -/
  attributesFilter : K .attributesFilter → Entries Datum → Entries Datum → Option Attributes →
    Text → Action (World H K σ) (Entries Datum)

/-- What hooks and handlers do. -/
structure Behaviour (H : Type) (K : HookKind → Type) (σ : Type) extends Hooks H K σ where
  /-- The output of a handler for a tag with the given attributes, content and name. -/
  handle : H → Attributes → Option Text → Text → Action (World H K σ) Datum

/-- Put a configuration in force. -/
def setConfig (config : Config K) : Action (World H K σ) PUnit :=
  modify fun world => { world with config }

/-- Run an action under another configuration.  At last, and even if the action fails, the
configuration from before is put in force again. -/
def underConfig (config : Config K) (action : Action (World H K σ) α) :
    Action (World H K σ) α := do
  let before := (← get).config
  setConfig config
  try action
  finally setConfig before

/-- The action runs from the configuration that is given and has its own outcome.  Behind it the
configuration is the one from before, whatever the action did to it. -/
theorem runOn_underConfig (config : Config K) (action : Action (World H K σ) α)
    (world : World H K σ) :
  (underConfig config action).runOn world
    = ((action.runOn { world with config }).1,
      { (action.runOn { world with config }).2 with config := world.config })
  := by
  rw [underConfig, Action.runOn_bind, Action.runOn_get]
  dsimp only
  rw [Action.runOn_bind, setConfig, Action.runOn_modify]
  dsimp only
  rw [Action.runOn_tryFinally]
  rfl

end Shortcode
