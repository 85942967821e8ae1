import Shortcode.Proofs.Config.Scope
import Shortcode.Proofs.Pass.Narrowed
import Shortcode.Proofs.Pass.Stripping
import Shortcode.Proofs.Registry.History

/-!
# Names that a text does not mention

A pass over a text asks a registry for nothing but the candidates of the text.  So two registries
that agree on the candidates are the same to a pass whose handlers and hooks leave the registry
alone, whatever else is registered in them: the text is expanded with the same outcome and the same
calls, and stripped to the same text (`Behaviour.treated_alike`).
-/

namespace Shortcode

variable {H : Type} {K : HookKind → Type} {σ α : Type}

/-! ### Registries that agree -/

namespace Registry

/-- The names are bound to the same in both registries, or not bound in either. -/
def AgreesOn (names : NameSet) (registry other : Registry H) : Prop :=
  ∀ name ∈ names, registry.get? name = other.get? name

/-- The registries that agree with the given one on some names. -/
def Alike (registry : Registry H) (names : NameSet) : Type :=
  { other : Registry H // registry.AgreesOn names other }

variable {registry other : Registry H} {names : NameSet} {text : Text}

theorem mem_names_iff_isSome {name : Text} :
  name ∈ registry.names ↔ (registry.get? name).isSome
  := by
  rw [mem_names, ← Entries.has_iff_mem_keys]
  rfl

/-- The same names are looked for. -/
theorem sought_eq_of_agreesOn (agrees : registry.AgreesOn (candidates text) other) :
  registry.sought text = other.sought text
  := by
  apply NameSet.ext
  intro name
  rw [sought, namesIn, sought, namesIn, NameSet.mem_inter, NameSet.mem_inter]
  apply and_congr_left
  intro candidate
  rw [mem_names_iff_isSome, mem_names_iff_isSome, agrees name candidate]

theorem callable_eq_of_agreesOn {name : Text} (agrees : registry.AgreesOn names other)
    (inside : name ∈ names) :
  registry.callable name = other.callable name
  := by rw [callable, callable, agrees name inside]

end Registry

/-! ### Actions that leave the registry alone -/

namespace World

/-- The world with another registry. -/
def withRegistry (registry : Registry H) (world : World H K σ) : World H K σ :=
  { world with registry }

variable {registry : Registry H} {names : NameSet}

/-- The world with a registry that agrees with the given one. -/
def withAlike (other : registry.Alike names) (world : World H K σ) : World H K σ :=
  world.withRegistry other.1

end World

namespace Action

theorem Blind.withAlike {registry : Registry H} {names : NameSet} {action : Action (World H K σ) α}
    (blind : Blind World.withRegistry action) :
  Blind (@World.withAlike H K σ registry names) action
  := by
  intro world
  obtain ⟨outcome, after, run⟩ := blind world
  use outcome, after
  intro other
  apply run other.1

/-- What leaves the registry alone does so if it is recorded. -/
theorem blind_recorded {action : Action (World H K σ) α} (call : Invocation H K)
    (blind : Blind World.withRegistry action) :
  Blind World.withRegistry (action.recorded call)
  := by
  intro world
  obtain ⟨outcome, after, run⟩ := blind world.withoutRecord
  use outcome, after.withRecord (world.rest.2 ++ [call])
  intro registry
  have same : (world.withRegistry registry).withoutRecord
      = world.withoutRecord.withRegistry registry := rfl
  rw [recorded, runOn_of, same, run]
  rfl

end Action

namespace Behaviour

/-- The handlers that the names are bound to, and the hooks around them, neither ask the registry
for anything nor change it. -/
structure IgnoresRegistry (behaviour : Behaviour H K σ) (config : Config K) (registry : Registry H)
    (names : NameSet) : Prop where
  handle : ∀ name ∈ names, ∀ handler, registry.callable name = .ok handler →
    ∀ (attributes : Attributes) (content : Option Text),
    Action.Blind World.withRegistry (behaviour.handle handler attributes content name)
  preDispatch : ∀ hook, config.preDispatch = some hook →
    ∀ (name : Text) (attributes : Attributes) (occurrence : Occurrence),
    Action.Blind World.withRegistry (behaviour.preDispatch hook name attributes occurrence)
  postDispatch : ∀ hook, config.postDispatch = some hook →
    ∀ (output name : Text) (attributes : Attributes) (occurrence : Occurrence),
    Action.Blind World.withRegistry (behaviour.postDispatch hook output name attributes occurrence)

variable {behaviour : Behaviour H K σ} {config : Config K} {registry : Registry H}
  {names : NameSet} {text : Text} {world : World H K σ}

theorem IgnoresRegistry.recording (ignores : behaviour.IgnoresRegistry config registry names) :
  behaviour.recording.IgnoresRegistry config registry names
  := by
  constructor
  · intro name inside handler bound attributes content
    apply Action.blind_recorded _ (ignores.handle name inside handler bound attributes content)
  · intro hook set name attributes occurrence
    apply Action.blind_recorded _ (ignores.preDispatch hook set name attributes occurrence)
  · intro hook set output name attributes occurrence
    apply Action.blind_recorded _ (ignores.postDispatch hook set output name attributes occurrence)

/-! ### Passes -/

theorem blind_intercept (ignores : behaviour.IgnoresRegistry config registry names)
    (occurrence : Occurrence) :
  Action.Blind World.withRegistry (behaviour.intercept config occurrence)
  := by
  unfold intercept
  cases set : config.preDispatch with
  | none => apply Action.blind_pure
  | some hook => apply ignores.preDispatch hook set

theorem blind_deliver (ignores : behaviour.IgnoresRegistry config registry names)
    {occurrence : Occurrence} (inside : occurrence.tag.name ∈ names) {handler : H}
    (bound : registry.callable occurrence.tag.name = .ok handler) :
  Action.Blind World.withRegistry (behaviour.deliver config occurrence handler)
  := by
  apply Action.blind_bind
  · apply ignores.handle _ inside handler bound
  · intro result
    cases set : config.postDispatch with
    | none => apply Action.blind_pure
    | some hook => apply ignores.postDispatch hook set

theorem blind_replaceBy (ignores : behaviour.IgnoresRegistry config registry names)
    {occurrence : Occurrence} (inside : occurrence.tag.name ∈ names) :
  Action.Blind World.withRegistry
    (behaviour.replaceBy config occurrence (registry.callable occurrence.tag.name))
  := by
  cases bound : registry.callable occurrence.tag.name with
  | error fault => apply Action.blind_lift (.error fault)
  | ok handler =>
    apply Action.blind_bind (blind_intercept ignores occurrence)
    intro replacement
    cases replacement with
    | none => apply blind_deliver ignores inside bound
    | some text => apply Action.blind_pure

theorem blind_dispatch (ignores : behaviour.IgnoresRegistry config registry names)
    {occurrence : Occurrence} (inside : occurrence.tag.name ∈ names) :
  Action.Blind (@World.withAlike H K σ registry names) (behaviour.dispatch config occurrence)
  := by
  cases escaped : occurrence.tag.isEscaped with
  | true =>
    rw [dispatch_of_escaped _ _ escaped]
    apply Action.blind_pure
  | false =>
    rw [dispatch_of_unescaped _ _ escaped]
    -- All the registries give the same binding, by which the tag is replaced.
    let common := behaviour.replaceBy config occurrence (registry.callable occurrence.tag.name)
    have same : ∀ (other : registry.Alike names) (world : World H K σ),
        behaviour.replaceBy config occurrence
          ((world.withAlike other).registry.callable occurrence.tag.name) = common := by
      intro other world
      change behaviour.replaceBy config occurrence (other.1.callable occurrence.tag.name) = common
      rw [← Registry.callable_eq_of_agreesOn other.2 inside]
    apply Action.blind_get_of_same same
    intro world
    apply (blind_replaceBy ignores inside).withAlike

theorem blind_pass (ignores : behaviour.IgnoresRegistry config registry (candidates text)) :
  Action.Blind (@World.withAlike H K σ registry (candidates text))
    (behaviour.pass text (registry, config))
  := by
  rw [pass]
  by_cases busy : ∃ name, name ∈ registry.sought text
  · rw [substitute_eq _ _ busy]
    apply Action.blind_bind
    · apply Action.blind_mapM
      intro occurrence found
      apply blind_dispatch ignores
      apply (NameSet.mem_inter.mp (Tag.name_mem_of_mem_scan found)).2
    · intro texts
      apply Action.blind_pure
  · rw [substitute_of_empty _ _ (not_exists.mp busy)]
    apply Action.blind_pure

/-- From all registries that agree on the candidates, a pass has one outcome and one effect. -/
theorem exists_runOn_expand (world : World H K σ)
    (ignores : behaviour.IgnoresRegistry world.config registry (candidates text)) :
  ∃ outcome, ∃ after : World H K σ, ∀ other : registry.Alike (candidates text),
    (behaviour.expand text).runOn (world.withAlike other) = (outcome, after.withAlike other)
  := by
  obtain ⟨outcome, after, run⟩ := blind_pass ignores world
  use outcome, after
  intro other
  have same : behaviour.pass text (other.1, world.config)
      = behaviour.pass text (registry, world.config) := by
    simp only [pass, Registry.sought_eq_of_agreesOn other.2]
  rw [← run other, ← same, expand_eq, Action.runOn_bind, Action.runOn_get]
  rfl

/-- From all registries that agree on the candidates, a pass has one outcome, one effect, and the
same calls. -/
theorem exists_traced_expand_withAlike
    (ignores : behaviour.IgnoresRegistry world.config registry (candidates text)) :
  ∃ calls outcome, ∃ after : World H K σ, ∀ other : registry.Alike (candidates text),
    Action.Traced (behaviour.expand text) (behaviour.recording.expand text)
      (world.withAlike other) calls outcome (after.withAlike other)
  := by
  let self : registry.Alike (candidates text) := ⟨registry, fun _ _ => rfl⟩
  obtain ⟨calls, outcome, after, traced⟩ :=
    exists_traced_expand behaviour text (world.withAlike self)
  use calls, outcome, after
  intro other
  constructor
  · obtain ⟨outcome', after', run⟩ := exists_runOn_expand world ignores
    have first := traced.run
    rw [run self] at first
    obtain ⟨rfl, rfl⟩ := Prod.mk.inj first
    apply run other
  · intro record
    obtain ⟨outcome', after', run⟩ :=
      exists_runOn_expand (world.withRecord record) ignores.recording
    obtain ⟨rfl, same⟩ := Prod.mk.inj ((run self).symm.trans (traced.record record))
    change _ = (_, (after.withRecord (record ++ calls)).withAlike other)
    rw [← same]
    apply run other

/-- Two registries that agree on the candidates of a text are the same to it, if the handlers that
the candidates are bound to, and the hooks around them, leave the registry alone: the text is
expanded with the same outcome, the same effect and the same calls, and without a filter it is
stripped to the same text. -/
theorem treated_alike {other : Registry H} (agrees : registry.AgreesOn (candidates text) other)
    (ignores : behaviour.IgnoresRegistry world.config registry (candidates text)) :
  (∃ calls outcome, ∃ after : World H K σ,
      Action.Traced (behaviour.expand text) (behaviour.recording.expand text)
          (world.withRegistry registry) calls outcome (after.withRegistry registry)
        ∧ Action.Traced (behaviour.expand text) (behaviour.recording.expand text)
          (world.withRegistry other) calls outcome (after.withRegistry other))
    ∧ (world.config.stripFilter = none → ∃ stripped,
      Action.Traced (behaviour.strip text) (behaviour.recording.strip text)
          (world.withRegistry registry) [] (.ok stripped) (world.withRegistry registry)
        ∧ Action.Traced (behaviour.strip text) (behaviour.recording.strip text)
          (world.withRegistry other) [] (.ok stripped) (world.withRegistry other))
  := by
  constructor
  · obtain ⟨calls, outcome, after, traced⟩ := exists_traced_expand_withAlike ignores
    use calls, outcome, after
    constructor
    · apply traced ⟨registry, fun _ _ => rfl⟩
    · apply traced ⟨other, agrees⟩
  · intro unset
    use stripTags (registry.sought text) text
    constructor
    · apply @traced_strip _ _ _ behaviour (world.withRegistry registry) unset text
    · rw [Registry.sought_eq_of_agreesOn agrees]
      apply @traced_strip _ _ _ behaviour (world.withRegistry other) unset text

/-- Registries of which one has names that the text does not mention, and the other one has had
them, with hooks around handlers, a name that is bound to no handler, and one that is not bound. -/
theorem treated_alike_of_others :
  let registry := Registry.empty.run
    [.register "b".toList (.value .integer), .register "a".toList (.handler "x".toList)]
  let other := Registry.empty.run
    [.registerUnder ["a".toList, "d".toList, "a.b".toList] (.handler "x".toList),
      .register "b".toList (.value .integer), .unregister "d".toList]
  let text := "[a] [c/] [[b]] [a/]".toList
  let world : World Text (fun _ => Unit) Nat :=
    { registry := .empty, config := { preDispatch := some (), postDispatch := some () }, rest := 0 }
  registry.AgreesOn (candidates text) other
    ∧ counting.IgnoresRegistry world.config registry (candidates text)
    ∧ ∃ calls outcome, ∃ after : World Text (fun _ => Unit) Nat,
      Action.Traced (counting.expand text) (counting.recording.expand text)
          (world.withRegistry registry) calls outcome (after.withRegistry registry)
        ∧ Action.Traced (counting.expand text) (counting.recording.expand text)
          (world.withRegistry other) calls outcome (after.withRegistry other)
  := by
  intro registry other text world
  have agrees : registry.AgreesOn (candidates text) other := by
    have all : (candidates text).toList.all
        fun name => registry.get? name = other.get? name := by decide +kernel
    intro name inside
    simpa using List.all_eq_true.mp all name inside
  have ignores : counting.IgnoresRegistry world.config registry (candidates text) := by
    constructor
    · intro _ _ handler _ _ _ before
      use .ok (.text handler), { before with rest := before.rest + 1 }
      intro _
      rfl
    · intro _ _ _ _ _
      apply Action.blind_pure
    · intro _ _ _ _ _ _
      apply Action.blind_pure
  use agrees, ignores
  apply (treated_alike agrees ignores).1

end Behaviour

end Shortcode
