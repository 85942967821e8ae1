import Shortcode.Proofs.Pass.Called
import Shortcode.Proofs.Pass.Stripping
import Shortcode.Proofs.Tag.Doubled

/-!
# Tags that are protected

Where a text is a tag from its first character to its last, brackets around it make an escaped tag
of it, and the same names are looked for (`Registry.sought_doubled`).  So the text is expanded and
stripped to itself, whatever handlers and hooks would do (`Behaviour.protects`).
-/

namespace Shortcode

variable {H : Type} {K : HookKind → Type} {σ : Type}

theorem Tag.stripped_escaped (tag : Tag) :
  tag.escaped.stripped = tag.core
  := by rw [stripped, if_pos tag.isEscaped_escaped, unescaped_escaped]

/-- Brackets around a text that starts with a bracket name nothing, nor does text without opening
brackets. -/
theorem Registry.sought_doubled {registry : Registry H} (reachable : registry.Reachable)
    {front text rest : Text} (starts : text.head? = some '[') (before : '[' ∉ front)
    (behind : '[' ∉ rest) :
  registry.sought (front ++ '[' :: (text ++ ']' :: rest)) = registry.sought text
  := by
  obtain ⟨inner, rfl⟩ := List.head?_eq_some_iff.mp starts
  apply NameSet.ext
  intro name
  rw [mem_sought_iff reachable, mem_sought_iff reachable]
  apply and_congr_right
  intro registered
  obtain ⟨nonempty, plain⟩ := plain_of_mem_names reachable registered
  have undelimited : ∀ text, ¬ Delimited name ('[' :: text) := by
    rintro text ⟨behind, whole, -⟩
    exact append_ne_bracket nonempty (not_mem_of_plain plain (by decide)) behind text whole
  have unnamed : ¬ NamedIn name rest := not_namedIn_of_not_mem behind
  rw [namedIn_append_iff before, namedIn_cons_iff,
    namedIn_append_cons_iff (by decide) (by decide) plain]
  simp [undelimited, unnamed]

namespace Behaviour

variable {behaviour : Behaviour H K σ} {world : World H K σ}

/-- A text whose tags are all escaped is expanded as it is stripped, and nothing is called. -/
theorem traced_expand_of_escaped {text : Text}
    (escaped : ∀ occurrence ∈ Tag.scan (world.registry.sought text) text,
      occurrence.tag.isEscaped) :
  Action.Traced (behaviour.expand text) (behaviour.recording.expand text) world []
    (.ok (stripTags (world.registry.sought text) text)) world
  := by
  by_cases busy : ∃ name, name ∈ world.registry.sought text
  · obtain ⟨calls, outcome, after, course, traced⟩ :=
      @exists_live_course_expand H K σ behaviour text world busy
    obtain ⟨rfl, rfl, unchanged⟩ := eq_of_course_of_escaped escaped course
    have stripped : (Tag.scan (world.registry.sought text) text).map (Tag.unescaped ∘ Occurrence.tag)
        = (Tag.scan (world.registry.sought text) text).map (Tag.stripped ∘ Occurrence.tag) := by
      apply List.map_congr_left
      intro occurrence inside
      rw [Function.comp_apply, Function.comp_apply, Tag.stripped, if_pos (escaped _ inside)]
    rwa [Except.map, stripped, assemble_stripped busy, unchanged] at traced
  · have idle := not_exists.mp busy
    rw [stripTags_of_empty idle]
    apply traced_expand_of_idle idle

/-- A text that is one tag, with brackets around it and text without opening brackets on both
sides, is expanded and stripped to itself without these brackets, and nothing is called. -/
theorem protects (reachable : world.registry.Reachable) {text front rest : Text}
    {occurrence : Occurrence} (alone : Tag.scan (world.registry.sought text) text = [occurrence])
    (first : occurrence.start = 0) (last : occurrence.stop = text.length) (before : '[' ∉ front)
    (behind : '[' ∉ rest) :
  let doubled := front ++ '[' :: (text ++ ']' :: rest)
  let restored := restoreBrackets (front ++ text ++ rest)
  Action.Traced (behaviour.expand doubled) (behaviour.recording.expand doubled) world []
      (.ok restored) world
    ∧ (world.config.stripFilter = none →
      Action.Traced (behaviour.strip doubled) (behaviour.recording.strip doubled) world []
        (.ok restored) world)
  := by
  intro doubled restored
  have found := Tag.read_of_alone alone first last
  have plain : ∀ name ∈ world.registry.sought text,
      name ≠ [] ∧ ∀ c ∈ name, isDelimiter c = false := by
    intro name inside
    apply Registry.plain_of_mem_names reachable
    apply Registry.mem_names_of_mem_sought inside
  have sought : world.registry.sought doubled = world.registry.sought text := by
    apply Registry.sought_doubled reachable _ before behind
    obtain ⟨_, whole, -⟩ := Tag.findSome?_of_read found
    rw [whole, Tag.opener]
    split <;> rfl
  -- The escaped tag is the only one, and stands for the tag itself.
  have items := Tag.items_doubled plain found before behind
  have filled := Tag.fill_doubled plain found before behind
  rw [← Tag.map_tag_scan, ← sought] at items
  rw [← sought] at filled
  obtain ⟨only, scanned, escapes⟩ := List.map_eq_singleton_iff.mp items
  have stripped : stripTags (world.registry.sought doubled) doubled = restored := by
    have busy : ∃ name, name ∈ world.registry.sought doubled := by
      rw [sought]
      exact ⟨_, Tag.name_mem_of_read found⟩
    rw [stripTags_of_mem busy, scanned, List.map_singleton, Function.comp_apply, escapes,
      Tag.stripped_escaped, filled]
  rw [← stripped]
  constructor
  · apply traced_expand_of_escaped
    simp [doubled, scanned, escapes]
  · intro unset
    apply behaviour.traced_strip unset doubled

/-- A tag whose opening bracket is doubled already and whose content has brackets, with hooks that
are set and a reference to a bracket in front of it. -/
theorem protects_of_half_escaped :
  let world : World Text (fun _ => Unit) Nat :=
    { selfNamed ["b".toList, "bold".toList] with
      config := { preDispatch := some (), postDispatch := some () } }
  let text := "[[bold x]y [b] z[/bold]".toList
  let front := "&#91; u] ".toList
  let rest := "] v".toList
  let occurrence : Occurrence :=
    ⟨⟨true, "bold".toList, " x".toList, .enclosing "y [b] z".toList, false⟩, 0⟩
  let doubled := front ++ '[' :: (text ++ ']' :: rest)
  let restored := restoreBrackets (front ++ text ++ rest)
  world.registry.Reachable
    ∧ Tag.scan (world.registry.sought text) text = [occurrence]
    ∧ occurrence.stop = text.length
    ∧ '[' ∉ front
    ∧ '[' ∉ rest
    ∧ restored = "[ u] [[bold x]y [b] z[/bold]] v".toList
    ∧ Action.Traced (counting.expand doubled) (counting.recording.expand doubled) world []
      (.ok restored) world
    ∧ (world.config.stripFilter = none →
      Action.Traced (counting.strip doubled) (counting.recording.strip doubled) world []
        (.ok restored) world)
  := by
  intro world text front rest occurrence doubled restored
  have reachable : world.registry.Reachable := reachable_selfNamed _
  have alone : Tag.scan (world.registry.sought text) text = [occurrence] := by decide +kernel
  have last : occurrence.stop = text.length := by decide
  have before : '[' ∉ front := by decide
  have behind : '[' ∉ rest := by decide
  use reachable, alone, last, before, behind, by decide +kernel
  exact protects reachable alone rfl last before behind

end Behaviour

end Shortcode
