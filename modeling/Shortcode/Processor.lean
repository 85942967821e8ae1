import Shortcode.Attributes.Merge
import Shortcode.Expand
import Shortcode.Strip
import Shortcode.Tag.Pattern

/-!
# Processors

A processor is a registry with a configuration of its own.  Its operations run under that
configuration, and the one that was in force before is in force again behind them.  They
work in a world whose registry is the processor's.
-/

namespace Shortcode

variable {H : Type} {K : HookKind → Type} {σ : Type}

namespace Behaviour

/-- Expand a text under a processor's configuration. -/
def expandUnder (behaviour : Behaviour H K σ) (config : Config K) (text : Text) :
    Action (World H K σ) Text :=
  underConfig config (behaviour.expand text)

end Behaviour

namespace Hooks

/-- Strip a text under a processor's configuration. -/
def stripUnder (hooks : Hooks H K σ) (config : Config K) (text : Text) :
    Action (World H K σ) Text :=
  underConfig config (hooks.strip text)

/-- Merge attributes with defaults under a processor's configuration. -/
def mergeUnder (hooks : Hooks H K σ) (config : Config K) (defaults : Entries Datum)
    (attributes : Option Attributes) (shortcode : Text) :
    Action (World H K σ) (Entries Datum) :=
  underConfig config (hooks.merge defaults attributes shortcode)

end Hooks

/-- The pattern of the given names, or of all registered ones if there are none. -/
def Registry.pattern (registry : Registry H) (names : NameSet) : Except Fault Text :=
  tagPattern (if names.isEmpty then registry.names else names)

end Shortcode
