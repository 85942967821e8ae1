import Shortcode.Proofs.Name.Candidates
import Shortcode.Proofs.Pass.Course
import Shortcode.Proofs.Tag.Narrowing

/-!
# Expanding a text

Expanding a text in which no registered name is a candidate does nothing.  Otherwise the tags
of the text are replaced one after the other, as `Behaviour.Course` has it, and what replaces
them is woven into the text between them (`traced_expand`).
-/

namespace Shortcode

variable {H : Type} {K : HookKind → Type} {σ : Type}

/-- The names that a pass looks for: the registered ones among the candidates of the text. -/
def Registry.sought (registry : Registry H) (text : Text) : NameSet :=
  registry.namesIn (candidates text)

/-- What a text becomes, given what replaces its tags: the texts in place of the tags, between
the text that was there, with the brackets of the whole restored. -/
def assemble (names : NameSet) (text : Text) (texts : List Text) : Text :=
  restoreBrackets (weave (gaps text 0 (Tag.scan names text)) texts)

theorem Registry.mem_names_of_mem_sought {registry : Registry H} {text name : Text}
    (inside : name ∈ registry.sought text) :
  name ∈ registry.names
  := (NameSet.mem_inter.mp inside).1

/-- The tags that are found have registered names. -/
theorem Registry.mem_names_of_mem_scan {registry : Registry H} {text : Text} :
  ∀ occurrence ∈ Tag.scan (registry.sought text) text, occurrence.tag.name ∈ registry.names
  := fun _ inside => mem_names_of_mem_sought (Tag.name_mem_of_mem_scan inside)

/-- In a text without opening brackets no name is looked for. -/
theorem Registry.sought_of_no_bracket (registry : Registry H) {text : Text}
    (without : '[' ∉ text) (name : Text) :
  name ∉ registry.sought text
  := by
  intro inside
  obtain ⟨-, -, front, rest, rfl, -⟩ := mem_candidates_iff.mp (NameSet.mem_inter.mp inside).2
  simp at without

/-- From a registry without names none is looked for. -/
theorem Registry.sought_of_isEmpty {registry : Registry H} (bare : registry.isEmpty)
    (text name : Text) :
  name ∉ registry.sought text
  := by
  intro inside
  have registered := Registry.mem_names_of_mem_sought inside
  rw [Registry.names, List.isEmpty_iff.mp bare] at registered
  apply NameSet.not_mem_empty name registered

/-- In a text that is left alone at once no name is looked for. -/
theorem Registry.sought_of_early {registry : Registry H} {text : Text}
    (early : (!text.elem '[' || registry.isEmpty) = true) (name : Text) :
  name ∉ registry.sought text
  := by
  rw [Bool.or_eq_true] at early
  rcases early with without | bare
  · apply Registry.sought_of_no_bracket
    simpa using without
  · apply Registry.sought_of_isEmpty bare

theorem substitute_of_empty {m : Type → Type} [Monad m] (replace : Occurrence → m Text)
    {names : NameSet} (text : Text) (empty : ∀ name, name ∉ names) :
  substitute replace names text = pure text
  := by
  have bare : names.isEmpty := by
    cases found : names.isEmpty with
    | true => rfl
    | false =>
      obtain ⟨name, inside⟩ := NameSet.isEmpty_eq_false_iff.mp found
      apply absurd inside (empty name)
  rw [substitute, if_pos bare]

namespace Behaviour

/-- A pass that has read the registry and the configuration. -/
def pass (behaviour : Behaviour H K σ) (text : Text) (setting : Registry H × Config K) :
    Action (World H K σ) Text :=
  substitute (behaviour.dispatch setting.2) (setting.1.sought text) text

/-- A text that is left alone at once has no names to look for. -/
theorem expand_eq (behaviour : Behaviour H K σ) (text : Text) :
  behaviour.expand text
    = get >>= fun world => behaviour.pass text (world.registry, world.config)
  := by
  rw [expand]
  congr 1
  funext world
  split
  · rename_i early
    rw [pass, substitute_of_empty]
    apply Registry.sought_of_early early
  · rfl

variable {behaviour : Behaviour H K σ} {callable : World H K σ → Text → Except Fault H}
  {P : World H K σ → Prop}

theorem traced_pass {text : Text} {world after : World H K σ} {calls : List (Invocation H K)}
    {outcome : Except Fault Text}
    (traced : Action.Traced (behaviour.pass text (world.registry, world.config))
      (behaviour.recording.pass text (world.registry, world.config)) world calls outcome after) :
  Action.Traced (behaviour.expand text) (behaviour.recording.expand text) world calls outcome after
  := by
  rw [expand_eq, expand_eq]
  apply Action.traced_get (fun _ => rfl) traced

theorem traced_expand_of_idle {text : Text} {world : World H K σ}
    (idle : ∀ name, name ∉ world.registry.sought text) :
  Action.Traced (behaviour.expand text) (behaviour.recording.expand text) world [] (.ok text) world
  := by
  apply traced_pass
  rw [pass, pass, substitute_of_empty _ _ idle, substitute_of_empty _ _ idle]
  apply Action.traced_pure text world

/-- A pass takes a course through the tags of the names that it looks for, if handlers are
looked up the same way in all worlds that can come up. -/
theorem exists_course_expand {world : World H K σ}
    (keeps : Keeps behaviour world.config callable P)
    (current : ∀ world, P world → callable world = world.registry.callable) {text : Text}
    (holds : P world) (busy : ∃ name, name ∈ world.registry.sought text) :
  ∃ calls outcome after,
    Course behaviour world.config callable (Tag.scan (world.registry.sought text) text) world
        calls outcome after
      ∧ Action.Traced (behaviour.expand text) (behaviour.recording.expand text) world calls
        (outcome.map (assemble (world.registry.sought text) text)) after
  := by
  obtain ⟨calls, outcome, after, course, traced⟩ :=
    exists_course keeps current (Tag.scan (world.registry.sought text) text) world holds
  use calls, outcome, after, course
  apply traced_pass
  rw [pass, pass, substitute_eq _ _ busy, substitute_eq _ _ busy]
  have same : outcome.map (assemble (world.registry.sought text) text)
      = outcome.map fun texts =>
        restoreBrackets (fill (Tag.pieces (world.registry.sought text) text) texts) := by
    cases outcome with
    | error fault => rfl
    | ok texts =>
      have enough := length_of_course course texts rfl
      rw [Except.map, Except.map, assemble, Tag.fill_pieces enough]
  rw [same]
  apply Action.traced_map traced _

/-- A pass whose handlers and hooks may do anything takes a course in which handlers are looked
up when their turn comes. -/
theorem exists_live_course_expand {text : Text} {world : World H K σ}
    (busy : ∃ name, name ∈ world.registry.sought text) :
  ∃ calls outcome after,
    Course behaviour world.config (fun current => current.registry.callable)
        (Tag.scan (world.registry.sought text) text) world calls outcome after
      ∧ Action.Traced (behaviour.expand text) (behaviour.recording.expand text) world calls
        (outcome.map (assemble (world.registry.sought text) text)) after
  := by
  have keeps : Keeps behaviour world.config (fun current => current.registry.callable)
      fun _ => True := by
    constructor
    · intro _ _ _ _ _ _ _ _ _
      trivial
    · intro _ _ _ _ _ _ _
      trivial
    · intro _ _ _ _ _ _ _ _
      trivial
  apply exists_course_expand keeps (fun _ _ => rfl) trivial busy

theorem exists_traced_expand (behaviour : Behaviour H K σ) (text : Text) (world : World H K σ) :
  ∃ calls outcome after,
    Action.Traced (behaviour.expand text) (behaviour.recording.expand text) world calls outcome after
  := by
  by_cases busy : ∃ name, name ∈ world.registry.sought text
  · obtain ⟨calls, outcome, after, -, traced⟩ :=
      @exists_live_course_expand H K σ behaviour text world busy
    exact ⟨calls, _, after, traced⟩
  · exact ⟨[], .ok text, world, traced_expand_of_idle (not_exists.mp busy)⟩

/-- The handlers and hooks that a pass in the world may call keep the registry. -/
def KeepsRegistry (behaviour : Behaviour H K σ) (world : World H K σ) : Prop :=
  Keeps behaviour world.config (fun _ => world.registry.callable) (·.registry = world.registry)

end Behaviour

end Shortcode
