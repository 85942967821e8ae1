import Shortcode.Handler.Run
import Shortcode.Proofs.Pass.Expansion
import Shortcode.Proofs.Registry.Reachable
import Shortcode.Proofs.Tag.Narrowing

/-!
# Changes during a pass

Handlers and hooks may change the registry and the configuration while a pass is on.  The tags
that a pass replaces, and the hooks around handlers, are settled when the pass begins; the handler
of a tag is looked up when the turn of the tag comes, and merged attributes go through the filter
that is set when they are merged (`traced_expand_of_changes`).
-/

namespace Shortcode

variable {H : Type} {K : HookKind → Type} {σ : Type}

/-- The turn of a tag in a pass. -/
structure Turn (H : Type) (K : HookKind → Type) (σ : Type) where
  occurrence : Occurrence
  /-- The world in which the turn comes. -/
  before : World H K σ
  calls : List (Invocation H K)
  outcome : Except Fault Text
  after : World H K σ

namespace Turn

/-- The first turn comes in the first world, each other one in the world that the one before it
left, and the last one leaves the last world. -/
def Linked : World H K σ → List (Turn H K σ) → World H K σ → Prop
  | world, [], after => world = after
  | world, turn :: turns, after => turn.before = world ∧ Linked turn.after turns after

/-- The tags have their turns in order, up to the first one that fails. -/
structure InOrder (occurrences : List Occurrence) (world : World H K σ)
    (turns : List (Turn H K σ)) (outcome : Except Fault (List Text)) (after : World H K σ) :
    Prop where
  prefix_of : turns.map occurrence <+: occurrences
  linked : Linked world turns after
  /-- The texts that the turns give, or the fault of one of them. -/
  outcome_eq : outcome = turns.mapM Turn.outcome
  complete : ∀ texts, outcome = .ok texts → turns.map occurrence = occurrences
  /-- Only the last turn can fail. -/
  succeed : ∀ turn ∈ turns.dropLast, ∃ text, turn.outcome = .ok text
  /-- Where a turn fails, all fails. -/
  fail : ∀ turn ∈ turns, ∀ fault, turn.outcome = .error fault → outcome = .error fault

/-- What a turn does in a pass that began in the given world, whatever has been changed since. -/
structure Live (behaviour : Behaviour H K σ) (start : World H K σ) (turn : Turn H K σ) :
    Prop where
  /-- The name was registered when the pass began. -/
  registered : turn.occurrence.tag.name ∈ start.registry.names
  /-- The tag is replaced by means of the hooks from the beginning and the handler of now. -/
  replaces : Behaviour.Replaces behaviour start.config (fun world => world.registry.callable)
    turn.occurrence turn.before turn.calls turn.outcome turn.after
  /-- An escaped tag stands for itself. -/
  escaped : turn.occurrence.tag.isEscaped →
    turn.calls = [] ∧ turn.outcome = .ok (turn.occurrence.text.drop 1).dropLast
      ∧ turn.after = turn.before
  /-- A name that is bound to nothing any more is a fault. -/
  unregistered : turn.occurrence.tag.isEscaped = false →
    turn.before.registry.get? turn.occurrence.tag.name = none →
    turn.calls = []
      ∧ turn.outcome = .error (.invalidHandler turn.occurrence.tag.name .nothing)
      ∧ turn.after = turn.before
  /-- Unless the hook before dispatch steps in, the handler of now is called. -/
  dispatched : turn.occurrence.tag.isEscaped = false → ∀ handler calls between,
    turn.before.registry.get? turn.occurrence.tag.name = some (.handler handler) →
    Behaviour.Admits behaviour start.config turn.occurrence turn.before calls between →
    turn.occurrence.handlerCall handler ∈ turn.calls
  /-- Nothing else is called than the handler of now and the hooks from the beginning. -/
  called : ∀ call ∈ turn.calls,
    (∃ handler, turn.before.registry.get? turn.occurrence.tag.name = some (.handler handler)
        ∧ call = turn.occurrence.handlerCall handler)
      ∨ (∃ hook, start.config.preDispatch = some hook
        ∧ call = turn.occurrence.preDispatchCall hook)
      ∨ ∃ hook output, start.config.postDispatch = some hook
        ∧ call = turn.occurrence.postDispatchCall hook output

end Turn

namespace Behaviour

variable {behaviour : Behaviour H K σ} {config : Config K}
  {callable : World H K σ → Text → Except Fault H} {world between after : World H K σ}
  {occurrence : Occurrence} {calls calls' : List (Invocation H K)} {outcome : Except Fault Text}

theorem eq_of_replaces_of_uncallable (unescaped : occurrence.tag.isEscaped = false) {fault : Fault}
    (unbound : callable world occurrence.tag.name = .error fault)
    (replaces : Replaces behaviour config callable occurrence world calls outcome after) :
  calls = [] ∧ outcome = .error fault ∧ after = world
  := by
  cases replaces <;> simp_all

/-- Where a hook before dispatch does not replace the tag, it gives nothing. -/
theorem exists_runOn_of_admits (admits : Admits behaviour config occurrence world calls between)
    {hook : K .preDispatch} (set : config.preDispatch = some hook) :
  ∃ after, (behaviour.preDispatch hook occurrence.tag.name occurrence.parsed occurrence).runOn world
    = (.ok none, after)
  := by
  cases admits with
  | unset unset =>
    rw [unset] at set
    contradiction
  | passed set' run =>
    rw [set] at set'
    obtain rfl := Option.some.inj set'
    exact ⟨_, run⟩

theorem handlerCall_mem_of_replaces {handler : H} (unescaped : occurrence.tag.isEscaped = false)
    (bound : callable world occurrence.tag.name = .ok handler)
    (admits : Admits behaviour config occurrence world calls' between)
    (replaces : Replaces behaviour config callable occurrence world calls outcome after) :
  occurrence.handlerCall handler ∈ calls
  := by
  cases replaces with
  | escaped escaped => simp_all
  | uncallable _ unbound => simp_all
  | refused _ _ set run =>
    obtain ⟨_, passed⟩ := exists_runOn_of_admits admits set
    rw [passed] at run
    simp at run
  | intercepted _ _ set run =>
    obtain ⟨_, passed⟩ := exists_runOn_of_admits admits set
    rw [passed] at run
    simp at run
  | failed _ bound' => simp_all
  | handled _ bound' => simp_all
  | finished _ bound' => simp_all

theorem mem_of_mem_admits (admits : Admits behaviour config occurrence world calls between)
    {call : Invocation H K} (made : call ∈ calls) :
  ∃ hook, config.preDispatch = some hook ∧ call = occurrence.preDispatchCall hook
  := by
  cases admits with
  | unset => contradiction
  | passed set => exact ⟨_, set, List.mem_singleton.mp made⟩

/-- What is called to replace a tag is the handler of its name or a hook of the configuration. -/
theorem mem_of_mem_replaces
    (replaces : Replaces behaviour config callable occurrence world calls outcome after)
    {call : Invocation H K} (made : call ∈ calls) :
  (∃ handler, callable world occurrence.tag.name = .ok handler
      ∧ call = occurrence.handlerCall handler)
    ∨ (∃ hook, config.preDispatch = some hook ∧ call = occurrence.preDispatchCall hook)
    ∨ ∃ hook output, config.postDispatch = some hook
      ∧ call = occurrence.postDispatchCall hook output
  := by
  cases replaces with
  | escaped => contradiction
  | uncallable => contradiction
  | refused _ _ set => exact .inr (.inl ⟨_, set, List.mem_singleton.mp made⟩)
  | intercepted _ _ set => exact .inr (.inl ⟨_, set, List.mem_singleton.mp made⟩)
  | failed _ bound admits =>
    rcases List.mem_append.mp made with before | called
    · exact .inr (.inl (mem_of_mem_admits admits before))
    · exact .inl ⟨_, bound, List.mem_singleton.mp called⟩
  | handled _ bound admits =>
    rcases List.mem_append.mp made with before | called
    · exact .inr (.inl (mem_of_mem_admits admits before))
    · exact .inl ⟨_, bound, List.mem_singleton.mp called⟩
  | finished _ bound admits _ set =>
    rcases List.mem_append.mp made with before | called
    · exact .inr (.inl (mem_of_mem_admits admits before))
    · rcases List.mem_cons.mp called with rfl | behind
      · exact .inl ⟨_, bound, rfl⟩
      · exact .inr (.inr ⟨_, _, set, List.mem_singleton.mp behind⟩)

/-- What holds of the turn of a tag whose name was registered when the pass began. -/
theorem live_of_replaces {start : World H K σ} {turn : Turn H K σ}
    (registered : turn.occurrence.tag.name ∈ start.registry.names)
    (replaces : Replaces behaviour start.config (fun world => world.registry.callable)
      turn.occurrence turn.before turn.calls turn.outcome turn.after) :
  turn.Live behaviour start
  := by
  refine ⟨registered, replaces, ?escaped, ?unregistered, ?dispatched, ?called⟩
  case escaped =>
    intro escaped
    apply eq_of_replaces_of_escaped escaped replaces
  case unregistered =>
    intro unescaped unbound
    apply eq_of_replaces_of_uncallable unescaped _ replaces
    apply Registry.callable_of_get?_eq_none unbound
  case dispatched =>
    intro unescaped handler calls between bound admits
    apply handlerCall_mem_of_replaces unescaped _ admits replaces
    apply Registry.callable_eq_ok_iff.mpr bound
  case called =>
    intro call made
    rcases mem_of_mem_replaces replaces made with ⟨handler, bound, rfl⟩ | hooked
    · exact .inl ⟨handler, Registry.callable_eq_ok_iff.mp bound, rfl⟩
    · exact .inr hooked

/-! ### The turns of a pass -/

/-- A course is made of the turns of its tags. -/
theorem exists_turns {occurrences : List Occurrence} {outcome : Except Fault (List Text)}
    (course : Course behaviour config callable occurrences world calls outcome after) :
  ∃ turns : List (Turn H K σ), Turn.InOrder occurrences world turns outcome after
    ∧ calls = turns.flatMap Turn.calls
    ∧ ∀ turn ∈ turns, Replaces behaviour config callable turn.occurrence turn.before turn.calls
      turn.outcome turn.after
  := by
  induction course with
  | done =>
    use []
    constructor
    · exact ⟨List.prefix_rfl, rfl, rfl, fun _ _ => rfl, by simp, by simp⟩
    · simp
  | @aborted occurrence occurrences world after calls fault first =>
    -- The tags behind the failure have no turns.
    use [⟨occurrence, world, calls, .error fault, after⟩]
    refine ⟨⟨⟨occurrences, rfl⟩, ⟨rfl, rfl⟩, rfl, by simp, by simp, by simp⟩, by simp, ?_⟩
    intro turn inside
    obtain rfl := List.mem_singleton.mp inside
    apply first
  | @next occurrence occurrences world between after calls calls' text outcome first _ ih =>
    obtain ⟨turns, inOrder, rfl, replaced⟩ := ih
    use ⟨occurrence, world, calls, .ok text, between⟩ :: turns
    refine ⟨⟨?_, ⟨rfl, inOrder.linked⟩, ?_, ?_, ?_, ?_⟩, ?_, ?_⟩
    · rw [List.map_cons, List.cons_prefix_cons]
      exact ⟨rfl, inOrder.prefix_of⟩
    · rw [inOrder.outcome_eq, List.mapM_cons]
      rfl
    · intro texts given
      cases outcome with
      | error => contradiction
      | ok others => rw [List.map_cons, inOrder.complete others rfl]
    · intro turn inside
      cases turns with
      | nil => contradiction
      | cons turn' turns =>
        rw [List.dropLast_cons_of_ne_nil (List.cons_ne_nil _ _)] at inside
        rcases List.mem_cons.mp inside with rfl | inside
        · exact ⟨text, rfl⟩
        · apply inOrder.succeed turn inside
    · intro turn inside fault failed
      rcases List.mem_cons.mp inside with rfl | inside
      · contradiction
      · rw [inOrder.fail turn inside fault failed]
        rfl
    · rw [List.flatMap_cons]
    · intro turn inside
      rcases List.mem_cons.mp inside with rfl | inside
      · apply first
      · apply replaced turn inside

/-- Merged attributes, through a filter. -/
def filterMerged (behaviour : Behaviour H K σ) (defaults : Entries Datum)
    (attributes : Option Attributes) (name : Text) (filter : Option (K .attributesFilter)) :
    Action (World H K σ) (Entries Datum) :=
  match filter with
  | none => pure (merged defaults attributes)
  | some hook =>
    behaviour.attributesFilter hook (merged defaults attributes) defaults attributes name

theorem merge_of_named {name : Text} (named : name ≠ []) (defaults : Entries Datum)
    (attributes : Option Attributes) :
  behaviour.merge defaults attributes name
    = get >>= fun world =>
      behaviour.filterMerged defaults attributes name world.config.attributesFilter
  := by
  rw [Hooks.merge, List.isEmpty_eq_false_iff.mpr named]
  rfl

/-- Merged attributes go through the filter that is set at the moment, if the merge is made for
a named shortcode. -/
structure MergesLive (behaviour : Behaviour H K σ) : Prop where
  plain : ∀ (defaults : Entries Datum) (attributes : Option Attributes) (name : Text)
    (current : World H K σ), name = [] ∨ current.config.attributesFilter = none →
    Action.Traced (behaviour.merge defaults attributes name)
      (behaviour.recording.merge defaults attributes name) current []
      (.ok (merged defaults attributes)) current
  filtered : ∀ (defaults : Entries Datum) (attributes : Option Attributes) (name : Text)
    (current after : World H K σ) (hook : K .attributesFilter)
    (outcome : Except Fault (Entries Datum)),
    name ≠ [] → current.config.attributesFilter = some hook →
    (behaviour.attributesFilter hook (merged defaults attributes) defaults attributes
      name).runOn current = (outcome, after) →
    Action.Traced (behaviour.merge defaults attributes name)
      (behaviour.recording.merge defaults attributes name) current
      [.attributesFilter hook (merged defaults attributes) defaults attributes name] outcome after

theorem mergesLive (behaviour : Behaviour H K σ) :
  behaviour.MergesLive
  := by
  constructor
  · intro defaults attributes name current idle
    by_cases unnamed : name = []
    · subst unnamed
      apply Action.traced_pure (merged defaults attributes) current
    · have unset := idle.resolve_left unnamed
      rw [merge_of_named unnamed, merge_of_named unnamed]
      apply Action.traced_get fun _ => rfl
      rw [unset]
      apply Action.traced_pure (merged defaults attributes) current
  · intro defaults attributes name current after hook outcome named set run
    rw [merge_of_named named, merge_of_named named]
    apply Action.traced_get fun _ => rfl
    rw [set]
    apply Action.traced_recorded _ run

/-- Whatever is changed during a pass: the tags that have their turns are those of the names
that were registered in the beginning and are candidates of the text, in order and up to the
first failure; each turn goes by the hooks from the beginning and by the registry of the
moment; and merged attributes go through the filter of the moment. -/
theorem traced_expand_of_changes (behaviour : Behaviour H K σ) (text : Text)
    (world : World H K σ) :
  ((∀ name ∈ candidates text, name ∉ world.registry.names) →
      Action.Traced (behaviour.expand text) (behaviour.recording.expand text) world [] (.ok text)
        world)
    ∧ ((∃ name ∈ candidates text, name ∈ world.registry.names) →
      ∃ turns : List (Turn H K σ), ∃ outcome after,
        Turn.InOrder (Tag.scan (world.registry.sought text) text) world turns outcome after
          ∧ (∀ turn ∈ turns, turn.Live behaviour world)
          ∧ Action.Traced (behaviour.expand text) (behaviour.recording.expand text) world
            (turns.flatMap Turn.calls) (outcome.map (assemble (world.registry.sought text) text))
            after)
    ∧ behaviour.MergesLive
  := by
  refine ⟨?idle, ?busy, behaviour.mergesLive⟩
  case idle =>
    intro none
    apply traced_expand_of_idle
    intro name sought
    obtain ⟨registered, candidate⟩ := NameSet.mem_inter.mp sought
    apply none name candidate registered
  case busy =>
    rintro ⟨name, candidate, registered⟩
    have sought : name ∈ world.registry.sought text :=
      NameSet.mem_inter.mpr ⟨registered, candidate⟩
    obtain ⟨calls, outcome, after, course, traced⟩ :=
      @exists_live_course_expand H K σ behaviour text world ⟨name, sought⟩
    obtain ⟨turns, inOrder, rfl, replaced⟩ := exists_turns course
    use turns, outcome, after, inOrder
    constructor
    · intro turn inside
      apply live_of_replaces _ (replaced turn inside)
      apply Registry.mem_names_of_mem_scan
      apply inOrder.prefix_of.subset
      apply List.mem_map_of_mem inside
    · apply traced

/-- The first handler binds a name, the second one removes the name of the first, whose next
tag is a fault then. -/
theorem traced_expand_of_changing :
  let text := "[a/] [c/] [b] [[a] [[a]] [a/] [b]".toList
  let behaviour := Script.behaviourFor text
  let world : Workspace :=
    { registry := ⟨[
        ("a".toList, .handler ⟨1, .register "c".toList (.handler (.constant "x".toList))⟩),
        ("b".toList, .handler ⟨2, .unregister "a".toList⟩)]⟩
      rest := {} }
  (∃ name ∈ candidates text, name ∈ world.registry.names)
    ∧ ∃ turns : List (Turn Handler Hook Trail), ∃ outcome after,
      Turn.InOrder (Tag.scan (world.registry.sought text) text) world turns outcome after
        ∧ (∀ turn ∈ turns, turn.Live behaviour world)
        ∧ Action.Traced (behaviour.expand text) (behaviour.recording.expand text) world
          (turns.flatMap Turn.calls) (outcome.map (assemble (world.registry.sought text) text))
          after
  := by
  intro text behaviour world
  have busy : ∃ name ∈ candidates text, name ∈ world.registry.names := by
    use "a".toList
    decide +kernel
  use busy
  exact (traced_expand_of_changes behaviour text world).2.1 busy

end Behaviour

end Shortcode
