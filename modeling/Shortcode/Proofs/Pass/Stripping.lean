import Shortcode.Proofs.Pass.Expansion
import Shortcode.Strip

/-!
# Stripping a text

Without a filter a text is stripped of the tags that a pass looks for: what is left of each of
them takes its place, and nothing is called (`Behaviour.traced_strip`).
-/

namespace Shortcode

variable {H : Type} {K : HookKind → Type} {σ : Type}

/-- With any name at all, what is left of the tags is put in their places. -/
theorem stripTags_of_mem {names : NameSet} (nonempty : ∃ name, name ∈ names) (text : Text) :
  stripTags names text
    = restoreBrackets
        (fill (Tag.pieces names text) ((Tag.scan names text).map (Tag.stripped ∘ Occurrence.tag)))
  := by
  rw [stripTags, substitute_eq _ _ nonempty]
  simp
  rfl

/-- A pass that leaves of each tag what is left of it when it is stripped gives the stripped
text. -/
theorem assemble_stripped {names : NameSet} (nonempty : ∃ name, name ∈ names) (text : Text) :
  assemble names text ((Tag.scan names text).map (Tag.stripped ∘ Occurrence.tag))
    = stripTags names text
  := by rw [stripTags_of_mem nonempty, assemble, Tag.fill_pieces (List.length_map _)]

theorem stripTags_of_empty {names : NameSet} (empty : ∀ name, name ∉ names) (text : Text) :
  stripTags names text = text
  := by
  rw [stripTags, substitute_of_empty _ _ empty]
  rfl

/-- Without a filter, stripping takes out the tags of the names that are looked for. -/
theorem runOn_strip (hooks : Hooks H K σ) {world : World H K σ}
    (unset : world.config.stripFilter = none) (text : Text) :
  (hooks.strip text).runOn world = (.ok (stripTags (world.registry.sought text) text), world)
  := by
  rw [Hooks.strip, Action.runOn_bind, Action.runOn_get]
  simp only [unset]
  split
  · rename_i early
    rw [stripTags_of_empty (Registry.sought_of_early early)]
    rfl
  · rfl

/-- Without a filter, stripping calls nothing. -/
theorem Behaviour.traced_strip (behaviour : Behaviour H K σ) {world : World H K σ}
    (unset : world.config.stripFilter = none) (text : Text) :
  Action.Traced (behaviour.strip text) (behaviour.recording.strip text) world []
    (.ok (stripTags (world.registry.sought text) text)) world
  := by
  constructor
  · apply runOn_strip _ unset
  · intro record
    rw [List.append_nil]
    exact @runOn_strip _ _ _ behaviour.recording.toHooks (world.withRecord record) unset text

end Shortcode
