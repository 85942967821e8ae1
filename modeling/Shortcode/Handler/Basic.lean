import Shortcode.Attributes.Basic
import Shortcode.Registry
import Shortcode.Config
import Shortcode.Datum
import Shortcode.Tag.Scan

/-!
# Handlers and hooks

The handlers and hooks of this library's own language, as data.  A `Script` says what a
handler does, and a `Hook kind` what a hook of that kind does.  A `Handler` is a script that
has been installed: it has an identity of its own, which tells it apart from other handlers
with the same script and owns the count of a counting handler.

Every call of a handler or a hook is kept in the `Trail`, in the order of the calls.
-/

namespace Shortcode

/-- What a hook does.  Any hook can fail. -/
inductive Hook : HookKind → Type where
  /-- Raise an error. -/
  | fail {kind : HookKind} (fault : Fault) : Hook kind
  /-- Let the handler do its work. -/
  | proceed : Hook .preDispatch
  /-- Replace the tag by a text. -/
  | replaceBy (text : Text) : Hook .preDispatch
  /-- Replace the tag by itself as it is written. -/
  | keepSource : Hook .preDispatch
  /-- Replace the tags of the names given, and let handlers do their work for others. -/
  | replaceNamed (texts : Entries Text) : Hook .preDispatch
  /-- Leave the output as it is. -/
  | keepOutput : Hook .postDispatch
  /-- Put texts around the output. -/
  | surround (before after : Text) : Hook .postDispatch
  /-- Put the tag as it is written in place of the output. -/
  | outputSource : Hook .postDispatch
  /-- Put a text in place of the output. -/
  | outputBy (text : Text) : Hook .postDispatch
  /-- Strip all registered names. -/
  | allNames : Hook .stripFilter
  /-- Strip the registered names but the given ones. -/
  | butNames (names : List Text) : Hook .stripFilter
  /-- Strip the registered names and the given ones. -/
  | alsoNames (names : List Text) : Hook .stripFilter
  /-- Strip the given names. -/
  | onlyNames (names : List Text) : Hook .stripFilter
  /-- Leave merged attributes as they are. -/
  | keepMerged : Hook .attributesFilter
  /-- Write values over merged attributes. -/
  | overwrite (values : Entries Datum) : Hook .attributesFilter
  /-- Drop keys of merged attributes. -/
  | dropKeys (keys : List Text) : Hook .attributesFilter

/-- What a handler does. -/
inductive Script where
  /-- Give a text. -/
  | constant (text : Text)
  /-- Give the content. -/
  | content
  /-- Give the content between angle marks with the name of the tag. -/
  | wrap
  /-- Give a value. -/
  | give (value : Datum)
  /-- Raise an error. -/
  | fail (fault : Fault)
  /-- Count the calls. -/
  | count
  /-- List the hooks that are set. -/
  | listHooks
  /-- List the attributes merged with defaults, filtered or not. -/
  | merge (defaults : Entries Datum) (filtered : Bool)
  /-- Expand the content. -/
  | expand
  /-- Strip the content. -/
  | strip
  /-- Say whether the content has the shortcode. -/
  | has (name : Text)
  /-- Bind a name in the registry. -/
  | register (name : Text) (binding : Binding Script)
  /-- Remove a name from the registry. -/
  | unregister (name : Text)
  /-- Remove all names from the registry. -/
  | clear
  /-- Put a configuration in force. -/
  | setConfig (config : Config Hook)
  /-- Give the digest of the content. -/
  | digest

/-- An installed handler. -/
structure Handler where
  /-- The identity of the handler. -/
  id : Nat
  script : Script

/-- A call of a handler or a hook, with what it was given. -/
inductive Call where
  | handler (tag : Text) (attributes : Attributes) (content : Option Text)
  | preDispatch (tag : Text) (attributes : Attributes) (occurrence : Occurrence)
  | postDispatch (output tag : Text) (attributes : Attributes) (occurrence : Occurrence)
  | stripFilter (names : NameSet) (content : Text)
  | attributesFilter (merged defaults : Entries Datum) (attributes : Option Attributes)
      (shortcode : Text)

/-- What handlers and hooks keep track of. -/
structure Trail where
  /-- The calls so far. -/
  calls : Array Call := #[]
  /-- How often each counting handler was called, by its identity. -/
  counts : List (Nat × Nat) := []
  /-- The identity that the next installed handler gets. -/
  nextId : Nat := 1

namespace Trail

/-- The trail with one more call. -/
def record (call : Call) (trail : Trail) : Trail := { trail with calls := trail.calls.push call }

/-- The trail without calls, everything else being kept. -/
def forgetCalls (trail : Trail) : Trail := { trail with calls := #[] }

/-- How often the counting handler was called. -/
def countOf (id : Nat) (trail : Trail) : Nat := (trail.counts.lookup id).getD 0

/-- The trail with one more call of a counting handler. -/
def countUp (id : Nat) (trail : Trail) : Trail :=
  { trail with counts := (id, trail.countOf id + 1) :: trail.counts.filter (·.1 ≠ id) }

/-- Install what a name is to be bound to.  A handler gets a fresh identity, but the digest
shortcode is the same wherever it is installed. -/
def install (binding : Binding Script) : Action Trail (Binding Handler) := do
  match binding with
  | .value kind => return .value kind
  | .handler .digest => return .handler ⟨0, .digest⟩
  | .handler script =>
    let trail ← get
    set { trail with nextId := trail.nextId + 1 }
    return .handler ⟨trail.nextId, script⟩

end Trail

/-- The two names are bound to the very same value; an absent name counts as bound to
nothing. -/
def sameBinding (a b : Option (Binding Handler)) : Bool :=
  match a.getD (.value .nothing), b.getD (.value .nothing) with
  | .handler h, .handler h' => h.id == h'.id
  | .value kind, .value kind' => kind == kind'
  | _, _ => false

end Shortcode
