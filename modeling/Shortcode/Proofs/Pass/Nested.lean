import Shortcode.Proofs.Pass.Called
import Shortcode.Proofs.Tag.Forest

/-!
# Expanding nested tags

In the written form of a well-formed forest, a pass calls the handlers of the tags that are not
inside others, with the written forms of the forests inside them as contents, and of no other
tags (`calls_of_forest`).
-/

namespace Shortcode

namespace Behaviour

variable {H : Type} {K : HookKind → Type} {σ : Type} {behaviour : Behaviour H K σ}
  {world : World H K σ}

/-- With names that consist of characters of names, a pass over a written forest calls the
handlers of the tags that are not inside others, in order. -/
theorem calls_of_forest (reachable : world.registry.Reachable)
    (ordinary : behaviour.Ordinary world)
    (continues : ∀ name ∈ world.registry.names, ∀ c ∈ name, isNameChar c) {forest : Forest}
    (wellFormed : forest.WellFormed world.registry.names) :
  List.Forall₂ world.registry.Calls forest.tags (behaviour.callsOf forest.render world)
  := by
  have plain : ∀ name ∈ world.registry.names, name ≠ [] ∧ ∀ c ∈ name, isDelimiter c = false := by
    intro name
    apply Registry.plain_of_mem_names reachable
  apply forall₂_callsOf ordinary _ (Forest.isEscaped_of_mem_tags forest)
  apply Forest.items_render wellFormed plain
  · intro name sought
    exact ((Registry.mem_sought_iff reachable).mp sought).1
  · intro tag inside
    apply (Registry.mem_sought_iff reachable).mpr
    exact ⟨Forest.name_mem_of_mem_tags wellFormed tag inside,
      Forest.namedIn_render wellFormed tag inside⟩
  · intro tag inside other _
    apply not_hides_of_isNameChar
    apply continues _ (Forest.name_mem_of_mem_tags wellFormed tag inside)

/-- Names that continue each other, the outer name inside again in a tag that closes itself, and
attributes with slashes and spaces. -/
theorem calls_of_forest_of_prefixes :
  let world := selfNamed ["tag".toList, "tag-x".toList, "tags".toList]
  let inner : Forest :=
    .text "y".toList (.closed "tag".toList " /a".toList (.enclosing "tag-x".toList []
      (.closed "tags".toList [] .nil) .nil))
  let forest : Forest :=
    .text "x".toList (.enclosing "tag".toList " a=1 ".toList inner (.closed "tag-x".toList []
      (.text "z".toList .nil)))
  world.registry.Reachable
    ∧ counting.Ordinary world
    ∧ (∀ name ∈ world.registry.names, ∀ c ∈ name, isNameChar c)
    ∧ forest.WellFormed world.registry.names
    ∧ List.Forall₂ world.registry.Calls forest.tags (counting.callsOf forest.render world)
  := by
  intro world inner forest
  have ordinary : counting.Ordinary world := ordinary_selfNamed (by decide +kernel)
  have continues : ∀ name ∈ world.registry.names, ∀ c ∈ name, isNameChar c := by
    have all : world.registry.names.toList.all (·.all isNameChar) := by decide +kernel
    intro name inside
    apply List.all_eq_true.mp (List.all_eq_true.mp all name inside)
  have empty : PlainAttributes [] := ⟨.inl rfl, by decide, by decide, by decide⟩
  have tag : "tag".toList ∈ world.registry.names := by decide +kernel
  have tagX : "tag-x".toList ∈ world.registry.names := by decide +kernel
  have tags : "tags".toList ∈ world.registry.names := by decide +kernel
  have within : inner.WellFormed world.registry.names :=
    .text (by decide) (by decide)
      (.closed tag ⟨.inr rfl, by decide, by decide, by decide⟩
        (.enclosing tagX empty (by decide) (.closed tags empty .nil) .nil))
  have wellFormed : forest.WellFormed world.registry.names :=
    .text (by decide) (by decide)
      (.enclosing tag ⟨.inr rfl, by decide, by decide, by decide⟩ (by decide) within
        (.closed tagX empty (.text (by decide) (by decide) .nil)))
  use reachable_selfNamed _, ordinary, continues, wellFormed
  exact calls_of_forest (reachable_selfNamed _) ordinary continues wellFormed

end Behaviour

end Shortcode
