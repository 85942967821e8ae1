import Shortcode.Action
import Shortcode.Entries
import Shortcode.Name.Rules
import Shortcode.Name.Set

/-!
# Registries

A registry binds names to handlers.  A later registration of a name replaces the earlier
one.  Names are checked when they are registered; whether a name is bound to something that
can be called is checked when its tag is dispatched, so a registry may hold plain values as
well.

A `Change` is one operation on a registry.  Several names are registered one after the
other, so that those before an unusable name are registered even though the change fails.
-/

namespace Shortcode

/-- What a name is bound to: a handler, or a plain value of some kind. -/
inductive Binding (H : Type) where
  | handler (h : H)
  | value (kind : ValueKind)
  deriving DecidableEq, Repr

/-- The bound value can be called. -/
def Binding.isHandler {H : Type} : Binding H → Bool
  | .handler _ => true
  | .value _ => false

/-- Names and what they are bound to, in the order of their first registration. -/
structure Registry (H : Type) where
  entries : Entries (Binding H) := []

namespace Registry

variable {H : Type}

/-- The registry without names. -/
def empty : Registry H := {}

/-- What the name is bound to. -/
def get? (registry : Registry H) (name : Text) : Option (Binding H) := registry.entries.get? name

/-- The name is registered. -/
def has (registry : Registry H) (name : Text) : Bool := registry.entries.has name

/-- How many names are registered. -/
def size (registry : Registry H) : Nat := registry.entries.length

/-- No name is registered. -/
def isEmpty (registry : Registry H) : Bool := registry.entries.isEmpty

/-- The registered names. -/
def names (registry : Registry H) : NameSet := .ofList registry.entries.keys

/-- The registered names among the given ones. -/
def namesIn (registry : Registry H) (names : NameSet) : NameSet := registry.names.inter names

/-- The handler that the name is bound to, or the fault that it is bound to none. -/
def callable (registry : Registry H) (name : Text) : Except Fault H :=
  match registry.get? name with
  | some (.handler h) => .ok h
  | some (.value kind) => .error (.invalidHandler name kind)
  | none => .error (.invalidHandler name .nothing)

/-- The registry as it is shown: its names in increasing order. -/
def shown (registry : Registry H) : Text :=
  "ShortcodeRegistry([".toList ++ Text.join ", ".toList (registry.names.toList.map quoted)
    ++ "])".toList

/-! ### Changes -/

/-- An operation that changes a registry. -/
inductive Change (H : Type) where
  /-- Bind a name. -/
  | register (name : Text) (binding : Binding H)
  /-- Bind each of several names to a value of its own. -/
  | registerAll (bindings : List (Text × Binding H))
  /-- Bind all of several names, at least one, to the same value. -/
  | registerUnder (names : List Text) (binding : Binding H)
  /-- Remove a name, if it is there. -/
  | unregister (name : Text)
  /-- Remove all names. -/
  | clear

/-- Bind a name, if it can be registered. -/
def register (name : Text) (binding : Binding H) : Action (Registry H) Unit := do
  Action.lift (checkName name)
  modify fun registry => { registry with entries := registry.entries.put name binding }

/-- Carry out a change. -/
def apply : Change H → Action (Registry H) Unit
  | .register name binding => register name binding
  | .registerAll bindings => bindings.forM fun (name, binding) => register name binding
  | .registerUnder names binding =>
    if names.isEmpty then throw .noShortcodeNames
    else names.forM fun name => register name binding
  | .unregister name =>
    modify fun registry => { registry with entries := registry.entries.erase name }
  | .clear => modify fun registry => { registry with entries := [] }

/-- A name that can be registered is bound. -/
theorem runOn_register_of_valid {name : Text} (valid : nameFlaw? name = none)
    (binding : Binding H) (registry : Registry H) :
  (register name binding).runOn registry
    = (.ok (), { registry with entries := registry.entries.put name binding })
  := by simp [register, Action.runOn_bind, checkName, valid]

/-- A name that cannot be registered leaves the registry as it is. -/
theorem runOn_register_of_flaw {name : Text} {flaw : NameFlaw} (h : nameFlaw? name = some flaw)
    (binding : Binding H) (registry : Registry H) :
  (register name binding).runOn registry = (.error (.invalidName name flaw), registry)
  := by simp [register, Action.runOn_bind, checkName, h]

end Registry

end Shortcode
