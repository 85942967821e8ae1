import Shortcode.Attributes.Parse
import Shortcode.Name.Candidates
import Shortcode.Text.References
import Shortcode.World

/-!
# Expanding the tags of a text

`Behaviour.expand` replaces each tag of a registered name by the output of its handler.  The
names and the hooks around handlers are those in force when the pass begins; the handler of
a tag is looked up when its turn comes.  Output is not searched for tags again.  In a text
that names any registered shortcode the bracket references are turned back into brackets
once all tags are replaced; any other text is left alone.
-/

namespace Shortcode

/-- Replace the tags of the given names from left to right, and restore the brackets of the
whole.  Without names nothing is done. -/
def substitute {m : Type → Type} [Monad m] (replace : Occurrence → m Text) (names : NameSet)
    (text : Text) : m Text := do
  if names.isEmpty then return text
  let parts ← (Tag.pieces names text).mapM fun
    | .char c => pure [c]
    | .item occurrence => replace occurrence
  return restoreBrackets parts.flatten

namespace Behaviour

variable {H : Type} {K : HookKind → Type} {σ : Type}

/-- The text that replaces a tag, with the hooks of the given configuration around its
handler.  An escaped tag stands for itself. -/
def dispatch (behaviour : Behaviour H K σ) (config : Config K) (occurrence : Occurrence) :
    Action (World H K σ) Text := do
  let tag := occurrence.tag
  if tag.isEscaped then return tag.unescaped
  let attributes := Attributes.parse tag.attributes
  let handler ← Action.lift ((← get).registry.callable tag.name)
  let replacement ←
    match config.preDispatch with
    | some hook => behaviour.preDispatch hook tag.name attributes occurrence
    | none => pure none
  match replacement with
  | some text => return text
  | none =>
    let result ← behaviour.handle handler attributes tag.content? tag.name
    let output := tag.opener ++ result.inserted ++ tag.closer
    match config.postDispatch with
    | some hook => behaviour.postDispatch hook output tag.name attributes occurrence
    | none => return output

/-- Replace the tags of registered names by the output of their handlers. -/
def expand (behaviour : Behaviour H K σ) (text : Text) : Action (World H K σ) Text := do
  let world ← get
  if !text.elem '[' || world.registry.isEmpty then return text
  substitute (behaviour.dispatch world.config) (world.registry.namesIn (candidates text)) text

end Behaviour

end Shortcode
