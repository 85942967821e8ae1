import Shortcode.Expand

/-!
# Stripping the tags of a text

`Hooks.strip` removes the tags of registered names together with their content.  The filter
of the current configuration may choose other names; in any case only names that the text
mentions count.  Additional brackets of a tag stay, and an escaped tag stands for itself.
-/

namespace Shortcode

/-- What is left of a stripped tag. -/
def Tag.stripped (tag : Tag) : Text :=
  if tag.isEscaped then tag.unescaped else tag.opener ++ tag.closer

/-- The text without the tags of the given names. -/
def stripTags (names : NameSet) (text : Text) : Text :=
  Id.run (substitute (fun occurrence => pure occurrence.tag.stripped) names text)

/-- Remove the tags of registered names and their content. -/
def Hooks.strip {H : Type} {K : HookKind → Type} {σ : Type} (hooks : Hooks H K σ)
    (text : Text) : Action (World H K σ) Text := do
  let world ← get
  if !text.elem '[' || world.registry.isEmpty then return text
  let names ←
    match world.config.stripFilter with
    | none => pure world.registry.names
    | some hook => NameSet.ofList <$> hooks.stripFilter hook world.registry.names text
  return stripTags (names.inter (candidates text)) text

end Shortcode
