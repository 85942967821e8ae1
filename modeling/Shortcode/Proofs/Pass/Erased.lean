import Mathlib.Data.List.Forall2
import Shortcode.Proofs.Pass.Called
import Shortcode.Proofs.Pass.Stripping

/-!
# Handlers that give nothing

If each of the registered names is bound to a handler that gives an empty text or null, what is
left of a tag that is expanded is what is left of it when it is stripped
(`Behaviour.eq_of_replaces_of_erases`).  So a text is stripped of the tags of some names as it is
expanded with such handlers, whatever the names are bound to where it is stripped
(`Behaviour.strips_as_erased`).
-/

namespace Shortcode

variable {H : Type} {K : HookKind → Type} {σ : Type}

namespace Behaviour

/-- In worlds with the property, each of the names is bound to a handler, which gives an empty
text or null and keeps the property. -/
structure Erases (behaviour : Behaviour H K σ) (names : NameSet) (P : World H K σ → Prop) :
    Prop where
  bound : ∀ world, P world → ∀ name ∈ names, ∃ handler, world.registry.callable name = .ok handler
  gives : ∀ world, P world → ∀ name ∈ names, ∀ handler,
    world.registry.callable name = .ok handler →
    ∀ (attributes : Attributes) (content : Option Text), ∃ result after,
      (behaviour.handle handler attributes content name).runOn world = (.ok result, after)
        ∧ (result = .null ∨ result = .text []) ∧ P after

variable {behaviour : Behaviour H K σ} {config : Config K} {names : NameSet}
  {P : World H K σ → Prop} {before after : World H K σ} {calls : List (Invocation H K)}

/-- Nothing but the additional brackets of a tag is left. -/
theorem eq_of_replaces_of_erases (erases : behaviour.Erases names P) (unhooked : config.Unhooked)
    {occurrence : Occurrence} {outcome : Except Fault Text} (named : occurrence.tag.name ∈ names)
    (holds : P before)
    (replaces : Replaces behaviour config (fun current => current.registry.callable) occurrence
      before calls outcome after) :
  outcome = .ok occurrence.tag.stripped ∧ P after
  := by
  cases escaped : occurrence.tag.isEscaped with
  | true =>
    obtain ⟨-, rfl, rfl⟩ := eq_of_replaces_of_escaped escaped replaces
    rw [Tag.stripped, if_pos escaped]
    exact ⟨rfl, holds⟩
  | false =>
    obtain ⟨handler, bound⟩ := erases.bound before holds _ named
    obtain ⟨-, given, run, rfl⟩ := handled_of_replaces unhooked replaces escaped bound
    obtain ⟨result, after', run', empty, holds'⟩ := erases.gives before holds _ named handler bound
      occurrence.parsed occurrence.tag.content?
    rw [run] at run'
    obtain ⟨rfl, rfl⟩ := Prod.mk.inj run'
    refine ⟨?_, holds'⟩
    have inserted : result.inserted = [] := by
      rcases empty with rfl | rfl
      · rfl
      · rfl
    rw [Tag.stripped, escaped, Except.map, Occurrence.output, inserted]
    simp

/-- Nothing but the additional brackets of the tags is left. -/
theorem eq_of_course_of_erases (erases : behaviour.Erases names P) (unhooked : config.Unhooked)
    {occurrences : List Occurrence} {outcome : Except Fault (List Text)}
    (named : ∀ occurrence ∈ occurrences, occurrence.tag.name ∈ names) (holds : P before)
    (course : Course behaviour config (fun current => current.registry.callable) occurrences
      before calls outcome after) :
  outcome = .ok (occurrences.map (Tag.stripped ∘ Occurrence.tag)) ∧ P after
  := by
  have step : ∀ occurrence ∈ occurrences, ∀ {before after calls outcome}, P before →
      Replaces behaviour config (fun current => current.registry.callable) occurrence before calls
        outcome after →
      ∃ text, outcome = .ok text ∧ occurrence.tag.stripped = text ∧ P after := by
    intro occurrence inside before after calls outcome holds replaces
    obtain ⟨given, holds⟩ :=
      eq_of_replaces_of_erases erases unhooked (named occurrence inside) holds replaces
    exact ⟨_, given, rfl, holds⟩
  obtain ⟨texts, rfl, left, holds⟩ := forall₂_of_course step holds course
  have same : occurrences.map (Tag.stripped ∘ Occurrence.tag) = texts := by
    rw [← List.forall₂_eq_eq_eq]
    apply List.forall₂_map_left_iff.mpr left
  rw [same]
  exact ⟨rfl, holds⟩

/-- With handlers that give nothing, a text is expanded to what is left of it if the tags that are
looked for are taken out. -/
theorem exists_runOn_expand_of_erases {world : World H K σ}
    (erases : behaviour.Erases world.registry.names P) (unhooked : world.config.Unhooked)
    (holds : P world) (text : Text) :
  ∃ after,
    (behaviour.expand text).runOn world
        = (.ok (stripTags (world.registry.sought text) text), after)
      ∧ P after
  := by
  by_cases busy : ∃ name, name ∈ world.registry.sought text
  · obtain ⟨calls, outcome, after, course, traced⟩ :=
      @exists_live_course_expand H K σ behaviour text world busy
    obtain ⟨rfl, holds⟩ :=
      eq_of_course_of_erases erases unhooked Registry.mem_names_of_mem_scan holds course
    refine ⟨after, ?_, holds⟩
    rw [traced.run, Except.map, assemble_stripped busy]
  · have idle := not_exists.mp busy
    refine ⟨world, ?_, holds⟩
    rw [(traced_expand_of_idle idle).run, stripTags_of_empty idle]

/-- A text is stripped, with no call and without fault, to what it is expanded to where the same
names are bound to handlers that give nothing. -/
theorem strips_as_erased {H' : Type} {K' : HookKind → Type} {σ' : Type}
    {eraser : Behaviour H' K' σ'} {world : World H K σ} {world' : World H' K' σ'}
    {P : World H' K' σ' → Prop} (unset : world.config.stripFilter = none)
    (same : world'.registry.names = world.registry.names)
    (erases : eraser.Erases world'.registry.names P) (unhooked : world'.config.Unhooked)
    (holds : P world') (text : Text) :
  ∃ stripped after,
    Action.Traced (behaviour.strip text) (behaviour.recording.strip text) world [] (.ok stripped)
        world
      ∧ (eraser.expand text).runOn world' = (.ok stripped, after)
      ∧ P after
  := by
  obtain ⟨after, run, holds⟩ := exists_runOn_expand_of_erases erases unhooked holds text
  have sought : world'.registry.sought text = world.registry.sought text := by
    rw [Registry.sought, Registry.namesIn, same]
    rfl
  rw [sought] at run
  exact ⟨_, after, behaviour.traced_strip unset text, run, holds⟩

/-- The behaviour of handlers that give null or an empty text, as they are told, and count how
often they are called. -/
def erasing : Behaviour Bool (fun _ => Unit) Nat where
  preDispatch _ _ _ _ := pure none
  postDispatch _ output _ _ _ := pure output
  stripFilter _ names _ := pure names.toList
  attributesFilter _ merged _ _ _ := pure merged
  handle null _ _ _ := .of fun world =>
    (.ok (if null then .null else .text []), { world with rest := world.rest + 1 })

/-- Names that are bound to a handler and to plain values, against handlers under the same names,
registered in another order. -/
theorem strips_as_erased_of_values :
  let world : World Text (fun _ => Unit) Nat :=
    { registry := ⟨[("a".toList, .value .integer), ("b".toList, .handler "x".toList),
        ("b-c".toList, .value .nothing)]⟩
      rest := 0 }
  let world' : World Bool (fun _ => Unit) Nat :=
    { registry := ⟨[("b-c".toList, .handler true), ("b".toList, .handler false),
        ("a".toList, .handler true)]⟩
      rest := 0 }
  let P : World Bool (fun _ => Unit) Nat → Prop := (·.registry = world'.registry)
  let text := "[ [[a]] [[a/] u [b x=']'] [b-c] v [/b-c]] [/b] ]".toList
  world.config.stripFilter = none
    ∧ world'.registry.names = world.registry.names
    ∧ erasing.Erases world'.registry.names P
    ∧ world'.config.Unhooked
    ∧ P world'
    ∧ ∃ stripped after,
      Action.Traced (counting.strip text) (counting.recording.strip text) world [] (.ok stripped)
          world
        ∧ (erasing.expand text).runOn world' = (.ok stripped, after)
        ∧ P after
  := by
  intro world world' P text
  have same : world'.registry.names = world.registry.names := rfl
  have erases : erasing.Erases world'.registry.names P := by
    constructor
    · intro current kept name inside
      rw [kept]
      rcases List.mem_cons.mp (NameSet.mem_ofList.mp inside) with rfl | inside
      · exact ⟨true, rfl⟩
      · rcases List.mem_cons.mp inside with rfl | inside
        · exact ⟨false, rfl⟩
        · obtain rfl := List.mem_singleton.mp inside
          exact ⟨true, rfl⟩
    · intro current kept name _ handler _ _ _
      use if handler then .null else .text [], { current with rest := current.rest + 1 }, rfl
      constructor
      · cases handler with
        | true => exact .inl rfl
        | false => exact .inr rfl
      · exact kept
  use rfl, same, erases, ⟨rfl, rfl⟩, rfl
  exact strips_as_erased rfl same erases ⟨rfl, rfl⟩ rfl text

end Behaviour

end Shortcode
