import Shortcode.Proofs.Pass.Narrowed
import Shortcode.Proofs.Pass.Stripping
import Shortcode.Proofs.Text.Restored

/-!
# References behind a pass

Brackets are restored once, when all tags of a text have been replaced.  So no reference is left
in the result of a pass that looks for any names, even if the reference was put together of what
several handlers gave and the text between their tags (`restores_references`).
-/

namespace Shortcode

variable {H : Type} {K : HookKind → Type} {σ : Type}

/-- The names whose tags are taken out of a text, and the world behind their choice: none in a text
that is left alone at once, else the registered ones among the candidates, or those that the filter
chooses among them. -/
inductive Hooks.Narrows (hooks : Hooks H K σ) (text : Text) (world : World H K σ) :
    NameSet → World H K σ → Prop where
  | idle (early : '[' ∉ text ∨ world.registry.isEmpty) :
    Narrows hooks text world .empty world
  | registered (bracket : '[' ∈ text) (filled : world.registry.isEmpty = false)
    (unset : world.config.stripFilter = none) :
    Narrows hooks text world (world.registry.sought text) world
  | chosen {hook : K .stripFilter} {names : List Text} {after : World H K σ}
    (bracket : '[' ∈ text) (filled : world.registry.isEmpty = false)
    (set : world.config.stripFilter = some hook)
    (run : (hooks.stripFilter hook world.registry.names text).runOn world = (.ok names, after)) :
    Narrows hooks text world ((NameSet.ofList names).inter (candidates text)) after

variable {hooks : Hooks H K σ} {text : Text} {world after : World H K σ} {names : NameSet}

/-- A text without opening brackets is left alone, as is any text if no name is registered. -/
theorem Hooks.runOn_strip_of_early (early : '[' ∉ text ∨ world.registry.isEmpty) :
  (hooks.strip text).runOn world = (.ok text, world)
  := by
  have left : (!text.elem '[' || world.registry.isEmpty) = true := by simpa using early
  rw [Hooks.strip, Action.runOn_bind, Action.runOn_get]
  simp only [left, if_true]
  rfl

/-- Stripping with a filter, of a text that is not left alone. -/
theorem Hooks.runOn_strip_of_filter {hook : K .stripFilter} (bracket : '[' ∈ text)
    (filled : world.registry.isEmpty = false) (set : world.config.stripFilter = some hook) :
  (hooks.strip text).runOn world
    = match (hooks.stripFilter hook world.registry.names text).runOn world with
      | (.ok names, after) =>
        (.ok (stripTags ((NameSet.ofList names).inter (candidates text)) text), after)
      | (.error fault, after) => (.error fault, after)
  := by
  have late : (!text.elem '[' || world.registry.isEmpty) = false := by simp [bracket, filled]
  rw [Hooks.strip, Action.runOn_bind, Action.runOn_get]
  simp only [set, late, Bool.false_eq_true, if_false, map_eq_pure_bind, bind_assoc, pure_bind]
  rw [Action.runOn_bind]
  cases (hooks.stripFilter hook world.registry.names text).runOn world with
  | mk outcome after => cases outcome <;> rfl

/-- Once names are chosen, stripping takes out their tags. -/
theorem Hooks.runOn_strip_of_narrows (narrows : hooks.Narrows text world names after) :
  (hooks.strip text).runOn world = (.ok (stripTags names text), after)
  := by
  cases narrows with
  | idle early =>
    rw [runOn_strip_of_early early, stripTags_of_empty NameSet.not_mem_empty]
  | registered _ _ unset => apply runOn_strip hooks unset
  | chosen bracket filled set run => rw [runOn_strip_of_filter bracket filled set, run]

/-- Stripping completes only if names are chosen, and then it takes out their tags. -/
theorem Hooks.narrows_of_runOn_strip {result : Text}
    (run : (hooks.strip text).runOn world = (.ok result, after)) :
  ∃ names, hooks.Narrows text world names after ∧ result = stripTags names text
  := by
  suffices chosen : ∃ names, hooks.Narrows text world names after by
    obtain ⟨names, narrows⟩ := chosen
    rw [runOn_strip_of_narrows narrows] at run
    use names, narrows
    cases run
    rfl
  by_cases early : '[' ∉ text ∨ world.registry.isEmpty
  · rw [runOn_strip_of_early early] at run
    cases run
    exact ⟨_, .idle early⟩
  · obtain ⟨bracket, filled⟩ := not_or.mp early
    rw [not_not] at bracket
    rw [Bool.not_eq_true] at filled
    cases set : world.config.stripFilter with
    | none =>
      rw [runOn_strip hooks set] at run
      cases run
      exact ⟨_, .registered bracket filled set⟩
    | some hook =>
      rw [runOn_strip_of_filter bracket filled set] at run
      cases filtered : (hooks.stripFilter hook world.registry.names text).runOn world with
      | mk outcome between =>
        rw [filtered] at run
        cases outcome with
        | error fault => cases run
        | ok names =>
          cases run
          exact ⟨_, .chosen bracket filled set filtered⟩

/-- What takes the places of the tags is put in before the brackets are restored. -/
theorem restored_stripTags (busy : ∃ name, name ∈ names) (text : Text) :
  Restored (stripTags names text)
  := by
  rw [stripTags_of_mem busy]
  apply restored_restoreBrackets

theorem Behaviour.restored_of_runOn_expand {behaviour : Behaviour H K σ} {result : Text}
    (busy : ∃ name, name ∈ world.registry.sought text)
    (run : (behaviour.expand text).runOn world = (.ok result, after)) :
  Restored result
  := by
  obtain ⟨calls, outcome, after', -, traced⟩ :=
    @exists_live_course_expand H K σ behaviour text world busy
  have same := run.symm.trans traced.run
  cases outcome with
  | error fault => simp [Except.map] at same
  | ok texts =>
    obtain ⟨given, -⟩ := Prod.mk.inj same
    obtain rfl := Except.ok.inj given
    apply restored_restoreBrackets

/-- Brackets are restored as if all references were replaced at once, with no reference left, so
that doing it again changes nothing.  No reference is left in what an expansion gives that looks
for any names, nor in what stripping gives if any names are chosen for it, whatever handlers and
hooks do. -/
theorem Behaviour.restores_references (behaviour : Behaviour H K σ) (world : World H K σ)
    (text : Text) :
  (∀ source,
      restoreBrackets source = restoreAtOnce source
        ∧ restoreBrackets source
          = Text.replaceAll closeReference [']'] (Text.replaceAll openReference ['['] source)
        ∧ Restored (restoreBrackets source)
        ∧ restoreBrackets (restoreBrackets source) = restoreBrackets source)
    ∧ ((∃ name, name ∈ world.registry.sought text) →
      ∀ result after, (behaviour.expand text).runOn world = (.ok result, after) → Restored result)
    ∧ (∀ result after, (behaviour.strip text).runOn world = (.ok result, after) →
      ∃ names, behaviour.Narrows text world names after
        ∧ ((∃ name, name ∈ names) → Restored result))
    ∧ ∀ names after, behaviour.Narrows text world names after → (∃ name, name ∈ names) →
      ∃ result, (behaviour.strip text).runOn world = (.ok result, after) ∧ Restored result
  := by
  refine ⟨?_, ?_, ?_, ?_⟩
  · intro source
    refine ⟨restoreBrackets_eq source, ?_, restored_restoreBrackets source,
      restoreBrackets_idempotent source⟩
    rw [restoreBrackets_eq, replaceAll_replaceAll]
  · intro busy result after run
    apply Behaviour.restored_of_runOn_expand busy run
  · intro result after run
    obtain ⟨names, narrows, rfl⟩ := Hooks.narrows_of_runOn_strip run
    use names, narrows
    intro busy
    apply restored_stripTags busy
  · intro names after narrows busy
    use stripTags names text, Hooks.runOn_strip_of_narrows narrows
    apply restored_stripTags busy

/-- A reference that two handlers and the text behind their tags make up together, and one that is
made up where a tag is taken out. -/
theorem Behaviour.restores_references_of_split :
  let world : World Text (fun _ => Unit) Nat :=
    { registry := ((Registry.apply (.registerAll [("a".toList, .handler "&#".toList),
        ("b".toList, .handler "9".toList)])).runOn .empty).2,
      config := { stripFilter := some () }, rest := 0 }
  let text := "[a/][b/]1;&#9[b]x[/b]3;".toList
  (∃ name, name ∈ world.registry.sought text)
    ∧ ((counting.expand text).runOn world).1 = .ok "[&#993;".toList
    ∧ ((counting.strip text).runOn world).1 = .ok "1;]".toList
    ∧ Restored "[&#993;".toList
    ∧ Restored "1;]".toList
  := by
  intro world text
  have busy : ∃ name, name ∈ world.registry.sought text := ⟨"a".toList, by decide +kernel⟩
  have narrows : counting.Narrows text world
      ((NameSet.ofList world.registry.names.toList).inter (candidates text)) world :=
    .chosen (by decide) (by decide) rfl rfl
  have expanded : ((counting.expand text).runOn world).1 = .ok "[&#993;".toList := by
    decide +kernel
  have stripped : ((counting.strip text).runOn world).1 = .ok "1;]".toList := by decide +kernel
  obtain ⟨-, expands, -, strips⟩ := restores_references counting world text
  use busy, expanded, stripped
  constructor
  · apply expands busy
    rw [← expanded]
  · obtain ⟨result, run, restored⟩ := strips _ _ narrows ⟨"a".toList, by decide +kernel⟩
    rw [run] at stripped
    cases stripped
    exact restored

end Shortcode
