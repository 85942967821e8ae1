import Shortcode.Expand

/-!
# The calls of a pass

Which handlers and hooks does a pass call, with what, and in which order?  A behaviour that
keeps a record, `Behaviour.recording`, does what the given behaviour does and writes each call
of a handler or hook down before it.  The record is part of what the behaviour keeps track of,
so a pass under it is a pass as any other.
-/

namespace Shortcode

variable {H : Type} {K : HookKind → Type} {σ α β : Type}

/-- A call of a handler or a hook, with what it is given. -/
inductive Invocation (H : Type) (K : HookKind → Type) where
  | preDispatch (hook : K .preDispatch) (name : Text) (attributes : Attributes)
      (occurrence : Occurrence)
  | handler (handler : H) (attributes : Attributes) (content : Option Text) (name : Text)
  | postDispatch (hook : K .postDispatch) (output name : Text) (attributes : Attributes)
      (occurrence : Occurrence)
  | stripFilter (hook : K .stripFilter) (names : NameSet) (text : Text)
  | attributesFilter (hook : K .attributesFilter) (merged defaults : Entries Datum)
      (attributes : Option Attributes) (shortcode : Text)

namespace World

/-- The world with a record of calls. -/
def withRecord (record : List (Invocation H K)) (world : World H K σ) :
    World H K (σ × List (Invocation H K)) where
  registry := world.registry
  config := world.config
  rest := (world.rest, record)

/-- The world without its record. -/
def withoutRecord (world : World H K (σ × List (Invocation H K))) : World H K σ where
  registry := world.registry
  config := world.config
  rest := world.rest.1

end World

/-- Write a call down and do what it does. -/
def Action.recorded (call : Invocation H K) (action : Action (World H K σ) α) :
    Action (World H K (σ × List (Invocation H K))) α :=
  .of fun world =>
    let (outcome, after) := action.runOn world.withoutRecord
    (outcome, after.withRecord (world.rest.2 ++ [call]))

namespace Behaviour

/-- The behaviour that does the same and keeps a record of the calls. -/
def recording (behaviour : Behaviour H K σ) :
    Behaviour H K (σ × List (Invocation H K)) where
  preDispatch hook name attributes occurrence :=
    .recorded (.preDispatch hook name attributes occurrence)
      (behaviour.preDispatch hook name attributes occurrence)
  postDispatch hook output name attributes occurrence :=
    .recorded (.postDispatch hook output name attributes occurrence)
      (behaviour.postDispatch hook output name attributes occurrence)
  stripFilter hook names text :=
    .recorded (.stripFilter hook names text) (behaviour.stripFilter hook names text)
  attributesFilter hook merged defaults attributes shortcode :=
    .recorded (.attributesFilter hook merged defaults attributes shortcode)
      (behaviour.attributesFilter hook merged defaults attributes shortcode)
  handle handler attributes content name :=
    .recorded (.handler handler attributes content name)
      (behaviour.handle handler attributes content name)

end Behaviour

namespace Action

/-- What an action does on a world, and the calls that its recorded form writes down. -/
structure Traced (action : Action (World H K σ) α)
    (recorded : Action (World H K (σ × List (Invocation H K))) α) (world : World H K σ)
    (calls : List (Invocation H K)) (outcome : Except Fault α) (after : World H K σ) : Prop where
  run : action.runOn world = (outcome, after)
  record : ∀ record : List (Invocation H K),
    recorded.runOn (world.withRecord record) = (outcome, after.withRecord (record ++ calls))

variable {action : Action (World H K σ) α}
  {recorded : Action (World H K (σ × List (Invocation H K))) α} {next : α → Action (World H K σ) β}
  {recordedNext : α → Action (World H K (σ × List (Invocation H K))) β}
  {world between after : World H K σ} {calls calls' : List (Invocation H K)}

/-- A result that is known makes no call. -/
theorem traced_lift (result : Except Fault α) (world : World H K σ) :
  Traced (lift result) (lift result) world [] result world
  := by
  constructor
  · rfl
  · intro record
    rw [List.append_nil]
    rfl

theorem traced_pure (a : α) (world : World H K σ) :
  Traced (pure a) (pure a) world [] (.ok a) world
  := traced_lift (.ok a) world

/-- A recorded call is written down, whether it fails or not. -/
theorem traced_recorded {outcome : Except Fault α} (call : Invocation H K)
    (run : action.runOn world = (outcome, after)) :
  Traced action (action.recorded call) world [call] outcome after
  := by
  constructor
  · apply run
  · intro record
    change ((action.runOn world).1, (action.runOn world).2.withRecord (record ++ [call])) = _
    rw [run]

/-- What is read of the world apart from the record is the same in both. -/
theorem traced_get {read : World H K σ → α}
    {recordedRead : World H K (σ × List (Invocation H K)) → α} {outcome : Except Fault β}
    (same : ∀ record, recordedRead (world.withRecord record) = read world)
    (others : Traced (next (read world)) (recordedNext (read world)) world calls outcome after) :
  Traced (get >>= fun world => next (read world))
    (get >>= fun world => recordedNext (recordedRead world)) world calls outcome after
  := by
  constructor
  · rw [runOn_bind, runOn_get]
    apply others.run
  · intro record
    rw [runOn_bind, runOn_get]
    simp only [same record]
    apply others.record record

/-- Behind an action that succeeds, the calls of the next one follow. -/
theorem traced_bind {a : α} {outcome : Except Fault β}
    (first : Traced action recorded world calls (.ok a) between)
    (second : Traced (next a) (recordedNext a) between calls' outcome after) :
  Traced (action >>= next) (recorded >>= recordedNext) world (calls ++ calls') outcome after
  := by
  constructor
  · rw [runOn_bind, first.run]
    apply second.run
  · intro record
    rw [runOn_bind, first.record record, ← List.append_assoc]
    apply second.record (record ++ calls)

/-- Behind an action that fails, nothing is called. -/
theorem traced_bind_of_error {fault : Fault}
    (first : Traced action recorded world calls (.error fault) after) :
  Traced (action >>= next) (recorded >>= recordedNext) world calls (.error fault) after
  := by
  constructor
  · rw [runOn_bind, first.run]
  · intro record
    rw [runOn_bind, first.record record]

/-- A result that is worked on without a call. -/
theorem traced_map {outcome : Except Fault α}
    (traced : Traced action recorded world calls outcome after) (f : α → β) :
  Traced (action >>= fun a => pure (f a)) (recorded >>= fun a => pure (f a)) world calls
    (outcome.map f) after
  := by
  cases outcome with
  | error fault => apply traced_bind_of_error traced
  | ok a =>
    rw [← List.append_nil calls]
    apply traced_bind traced (traced_pure (f a) after)

end Action

end Shortcode
