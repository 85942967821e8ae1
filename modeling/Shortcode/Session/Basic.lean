import Shortcode.Handler.Basic

/-!
# Sessions

A session keeps registries and processors under names of their own, and the configuration
that is in force.  A registry is shared: a processor refers to it by its number, and goes on
to do so when another registry takes over its name.

What is done in a session is a list of steps.  Each step gives an `Answer`: its outcome, the
calls of handlers and hooks that it made itself, and the names in the registry it was about.
A step that fails does not end the session.
-/

namespace Shortcode

/-- A registry, by its number, with a configuration of its own. -/
structure Processor where
  registry : Nat
  config : Config Hook

/-- The state of a session. -/
structure Session where
  /-- All registries, in the order in which they were made. -/
  registries : List (Registry Handler) := []
  /-- The number of the registry under each name. -/
  registryNames : Entries Nat := []
  /-- The processor under each name. -/
  processors : Entries Processor := []
  /-- The configuration in force. -/
  config : Config Hook := .default
  trail : Trail := {}

/-- What can be done with a registry. -/
inductive RegistryTask where
  /-- Make a registry with the given handlers. -/
  | create (bindings : List (Text × Binding Script))
  /-- Make a registry with the built-in shortcodes. -/
  | createDefaults
  | change (change : Registry.Change Script)
  | get (name : Text)
  | same (a b : Text)
  | has (name : Text)
  | size
  | isNonempty
  | shown
  | namesIn (candidates : List Text)
  | expand (text : Text)
  | strip (text : Text)
  | hasShortcode (text name : Text)

/-- What can be done with a processor. -/
inductive ProcessorTask where
  /-- Make a processor with the registry of a name, or with a new one. -/
  | create (registry : Option Text) (config : Config Hook)
  | hooks
  /-- Whether its registry is the one of the given name. -/
  | shares (registry : Text)
  | change (change : Registry.Change Script)
  | has (name : Text)
  | expand (text : Text)
  | strip (text : Text)
  | hasShortcode (text name : Text)
  | merge (defaults : Entries Datum) (attributes : Option Attributes) (shortcode : Text)
  | pattern (names : List Text)

/-- What a step that has no steps within it does. -/
inductive Task where
  | registry (name : Text) (task : RegistryTask)
  | processor (name : Text) (task : ProcessorTask)
  | merge (defaults : Entries Datum) (attributes : Option Attributes) (shortcode : Text)
  | setConfig (config : Config Hook)
  | resetConfig
  | hooks

/-- A step of a session. -/
inductive Step where
  | task (task : Task)
  /-- Steps under another configuration, at the end of which an error may be raised. -/
  | withConfig (config : Config Hook) (steps : List Step) (fault : Option Fault)
  /-- Steps in a thread of their own, which starts from the default configuration. -/
  | thread (steps : List Step)

/-- The answer to a step, whose result is of type `ρ`. -/
structure Answer (ρ : Type) where
  outcome : Except Fault ρ
  /-- The calls that the step made itself. -/
  calls : List Call
  /-- The names in the registry that the step was about, if there is one. -/
  names : Option NameSet

/-- The result of a step. -/
inductive Reply where
  | nothing
  /-- The registry that the step changed. -/
  | itself
  | truth (b : Bool)
  | text (text : Text)
  | number (n : Nat)
  | names (names : NameSet)
  | hooks (kinds : List HookKind)
  | entries (entries : Entries Datum)
  /-- What a name is bound to. -/
  | binding (binding : Option (Binding Handler))
  /-- The answers to the steps of a block, the hooks that are set behind it, and the fault that
  it was left with. -/
  | block (answers : List (Answer Reply)) (hooks : List HookKind) (fault : Option Fault)

end Shortcode
