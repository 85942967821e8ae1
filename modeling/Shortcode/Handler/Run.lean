import Shortcode.Contains
import Shortcode.DigestTag
import Shortcode.Handler.Basic
import Shortcode.Strip

/-!
# What handlers and hooks do

The meaning of scripts and hooks, as a `Behaviour`.  Each call is recorded before anything
else is done, except that the digest shortcode leaves no record of its own.

A handler may expand its content, which calls handlers in turn.  Contents are shorter than
the texts they stand in, so the length of a text bounds the depth of such calls, and
`Script.behaviourFor` allows for that depth.
-/

namespace Shortcode

/-- The worlds of the library's own handlers and hooks. -/
abbrev Workspace : Type := World Handler Hook Trail

namespace Workspace

/-- Record a call. -/
def record (call : Call) : Action Workspace Unit :=
  modify fun world => { world with rest := world.rest.record call }

/-- Change the registry. -/
def changeRegistry (change : Registry.Change Handler) : Action Workspace Unit :=
  .focus World.registry (fun registry world => { world with registry }) (Registry.apply change)

/-- Install what a name is to be bound to. -/
def install (binding : Binding Script) : Action Workspace (Binding Handler) :=
  .focus World.rest (fun rest world => { world with rest }) (Trail.install binding)

end Workspace

/-! ### Hooks -/

namespace Hook

/-- What a hook before dispatch does. -/
def runPreDispatch (hook : Hook .preDispatch) (tag : Text) (attributes : Attributes)
    (occurrence : Occurrence) : Action Workspace (Option Text) := do
  Workspace.record (.preDispatch tag attributes occurrence)
  match hook with
  | .fail fault => throw fault
  | .proceed => return none
  | .replaceBy text => return some text
  | .keepSource => return some occurrence.text
  | .replaceNamed texts => return texts.get? tag

/-- What a hook behind dispatch does. -/
def runPostDispatch (hook : Hook .postDispatch) (output tag : Text) (attributes : Attributes)
    (occurrence : Occurrence) : Action Workspace Text := do
  Workspace.record (.postDispatch output tag attributes occurrence)
  match hook with
  | .fail fault => throw fault
  | .keepOutput => return output
  | .surround before after => return before ++ output ++ after
  | .outputSource => return occurrence.text
  | .outputBy text => return text

/-- What a hook that chooses names does. -/
def runStripFilter (hook : Hook .stripFilter) (names : NameSet) (content : Text) :
    Action Workspace (List Text) := do
  Workspace.record (.stripFilter names content)
  match hook with
  | .fail fault => throw fault
  | .allNames => return names.toList
  | .butNames others => return names.toList.filter (!others.contains ·)
  | .alsoNames others => return names.toList ++ others
  | .onlyNames others => return others

/-- What a hook on merged attributes does. -/
def runAttributesFilter (hook : Hook .attributesFilter) (merged defaults : Entries Datum)
    (attributes : Option Attributes) (shortcode : Text) : Action Workspace (Entries Datum) := do
  Workspace.record (.attributesFilter merged defaults attributes shortcode)
  match hook with
  | .fail fault => throw fault
  | .keepMerged => return merged
  | .overwrite values => return merged.putAll values
  | .dropKeys keys => return merged.filter (!keys.contains ·.1)

/-- The meaning of all hooks. -/
def meaning : Hooks Handler Hook Trail where
  preDispatch := runPreDispatch
  postDispatch := runPostDispatch
  stripFilter := runStripFilter
  attributesFilter := runAttributesFilter

end Hook

/-! ### Handlers -/

namespace Script

/-- The content of a tag between angle marks with its name. -/
def wrapped (tag : Text) (content : Option Text) : Text :=
  '<' :: tag ++ '>' :: content.getD ['-'] ++ '<' :: '/' :: tag ++ ['>']

/-- Merged attributes as a text. -/
def listed (entries : Entries Datum) : Text :=
  Text.join [';'] (entries.map fun (key, value) => key ++ '=' :: value.shown)

/-- What a handler does once its call is recorded; `nested` expands a text. -/
def perform (nested : Text → Action Workspace Text) (handler : Handler)
    (attributes : Attributes) (content : Option Text) (tag : Text) :
    Action Workspace Datum := do
  match handler.script with
  | .constant text => return .text text
  | .content => return .text (content.getD [])
  | .wrap => return .text (wrapped tag content)
  | .give value => return value
  | .fail fault => throw fault
  | .count =>
    modify fun world => { world with rest := world.rest.countUp handler.id }
    return .text (toString ((← get).rest.countOf handler.id)).toList
  | .listHooks =>
    return .text (Text.join [','] ((← get).config.setKinds.map HookKind.label))
  | .merge defaults filtered =>
    let entries ← Hook.meaning.merge defaults (some attributes) (if filtered then tag else [])
    return .text (listed entries)
  | .expand => return .text (← nested (content.getD []))
  | .strip => return .text (← Hook.meaning.strip (content.getD []))
  | .has name =>
    let found := (← get).registry.hasShortcode (content.getD []) name
    return .text (if found then "yes".toList else "no".toList)
  | .register name binding =>
    let binding ← Workspace.install binding
    Workspace.changeRegistry (.register name binding)
    return .text []
  | .unregister name =>
    Workspace.changeRegistry (.unregister name)
    return .text []
  | .clear =>
    Workspace.changeRegistry .clear
    return .text []
  | .setConfig config =>
    modify fun world => { world with config }
    return .text []
  | .digest => return .text (← Hook.meaning.digestTag (some attributes) content tag)

/-- What a handler does; `nested` expands a text. -/
def run (nested : Text → Action Workspace Text) (handler : Handler) (attributes : Attributes)
    (content : Option Text) (tag : Text) : Action Workspace Datum := do
  match handler.script with
  | .digest => pure ()
  | _ => Workspace.record (.handler tag attributes content)
  perform nested handler attributes content tag

/-- The meaning of handlers and hooks, where handlers expand their contents by `nested`. -/
def behaviour (nested : Text → Action Workspace Text) : Behaviour Handler Hook Trail where
  toHooks := Hook.meaning
  handle := run nested

/-- The meaning of handlers and hooks, where handlers expand their contents to the given
depth. -/
def behaviourTo : Nat → Behaviour Handler Hook Trail
  | 0 => behaviour pure
  | depth + 1 => behaviour (behaviourTo depth).expand

/-- The meaning of handlers and hooks in a pass over the given text. -/
def behaviourFor (text : Text) : Behaviour Handler Hook Trail := behaviourTo text.length

end Script

namespace Workspace

/-- The workspace with an empty registry, the given configuration and no calls so far. -/
def start (config : Config Hook) : Workspace := { registry := .empty, config, rest := {} }

/-- Register handlers one by one. -/
def registerEach (bindings : List (Text × Binding Script)) : Action Workspace Unit :=
  bindings.forM fun (name, binding) => do
    changeRegistry (.register name (← install binding))

/-- Expand a text. -/
def expand (text : Text) : Action Workspace Text := (Script.behaviourFor text).expand text

/-- Strip a text. -/
def strip (text : Text) : Action Workspace Text := Hook.meaning.strip text

/-- The text contains a registered shortcode at any depth. -/
def hasShortcode (text name : Text) : Action Workspace Bool :=
  return (← get).registry.hasShortcode text name

/-- Merge attributes with defaults. -/
def merge (defaults : Entries Datum) (attributes : Option Attributes) (shortcode : Text) :
    Action Workspace (Entries Datum) :=
  Hook.meaning.merge defaults attributes shortcode

end Workspace

end Shortcode
