import Mathlib.Tactic.Use
import Shortcode.Processor
import Shortcode.Proofs.Pass.Calls

/-!
# What is in force

An action may run where one thing or another is in force, such as a configuration, which `put`
puts in force.  It is `Blind` if that makes no difference to it, and makes no difference to what is
in force.  It `RunsFrom` a value if it does what another action does where the value is in force,
and what was in force before is in force again behind it, even if it fails.

Blocks under a configuration run from it, whatever is done in them (`runsFrom_underConfig`), and so
do the operations of processors.
-/

namespace Shortcode

namespace Action

variable {κ S α β : Type} {put : κ → S → S} {value : κ} {action bare : Action S α}
  {next : α → Action S β}

/-- The action has one outcome and one effect, whatever is in force, and this it leaves in
force. -/
def Blind (put : κ → S → S) (action : Action S α) : Prop :=
  ∀ state, ∃ outcome after, ∀ before,
    action.runOn (put before state) = (outcome, put before after)

/-- The action does what the other one does where the value is in force, and leaves in force what
was in force before, whether it fails or not. -/
def RunsFrom (put : κ → S → S) (value : κ) (action bare : Action S α) : Prop :=
  ∀ state before, action.runOn (put before state)
    = ((bare.runOn (put value state)).1, put before (bare.runOn (put value state)).2)

theorem RunsFrom.blind (runsFrom : RunsFrom put value action bare) :
  Blind put action
  := by
  intro state
  use (bare.runOn (put value state)).1, (bare.runOn (put value state)).2
  apply runsFrom state

/-- If a blind action runs from anything, it runs from any value. -/
theorem Blind.runsFrom
    (absorb : ∀ value value' state, put value (put value' state) = put value state)
    (blind : Blind put action) (value : κ) :
  RunsFrom put value action action
  := by
  intro state before
  obtain ⟨outcome, after, run⟩ := blind state
  rw [run, run, absorb]

/-- Where an action runs from a value, and that one from another value, the latter counts. -/
theorem RunsFrom.trans
    (absorb : ∀ value value' state, put value (put value' state) = put value state)
    {value' : κ} {inner : Action S α} (outer : RunsFrom put value action inner)
    (runsFrom : RunsFrom put value' inner bare) :
  RunsFrom put value' action bare
  := by
  intro state before
  rw [outer, runsFrom, absorb]

/-- What becomes of the result makes no difference. -/
theorem RunsFrom.map (runsFrom : RunsFrom put value action bare) (f : α → β) :
  RunsFrom put value (action >>= fun a => pure (f a)) (bare >>= fun a => pure (f a))
  := by
  intro state before
  rw [runOn_bind, runOn_bind, runsFrom state before]
  cases bare.runOn (put value state) with
  | mk outcome after => cases outcome <;> rfl

theorem blind_pure (a : α) :
  Blind put (pure a : Action S α)
  := fun state => ⟨.ok a, state, fun _ => rfl⟩

theorem blind_lift (result : Except Fault α) :
  Blind put (lift result : Action S α)
  := fun state => ⟨result, state, fun _ => rfl⟩

theorem blind_bind (first : Blind put action) (second : ∀ a, Blind put (next a)) :
  Blind put (action >>= next)
  := by
  intro state
  obtain ⟨outcome, between, run⟩ := first state
  cases outcome with
  | error fault =>
    use .error fault, between
    intro before
    rw [runOn_bind, run]
  | ok a =>
    obtain ⟨outcome, after, run'⟩ := second a between
    use outcome, after
    intro before
    rw [runOn_bind, run]
    apply run'

/-- What is read of the state makes no difference, if the same is done with it whatever is in
force. -/
theorem blind_get_of_same {next common : S → Action S β}
    (same : ∀ before state, next (put before state) = common state)
    (others : ∀ state, Blind put (common state)) :
  Blind put (get >>= next)
  := by
  intro state
  obtain ⟨outcome, after, run⟩ := others state state
  use outcome, after
  intro before
  rw [runOn_bind, runOn_get]
  dsimp only
  rw [same, run]

/-- What is read of the state makes no difference, if it is read apart from what is in force. -/
theorem blind_get {next : S → Action S β}
    (same : ∀ before state, next (put before state) = next state)
    (others : ∀ state, Blind put (next state)) :
  Blind put (get >>= next)
  := blind_get_of_same same others

/-- An action on a part of the state is blind, if what is in force is no part of that part. -/
theorem blind_focus {T : Type} {get : S → T} {set : T → S → S}
    (same : ∀ before state, get (put before state) = get state)
    (apart : ∀ part before state, set part (put before state) = put before (set part state))
    (action : Action T α) :
  Blind put (focus get set action)
  := by
  intro state
  use (action.runOn (get state)).1, set (action.runOn (get state)).2 state
  intro before
  rw [focus, runOn_of, same, ← apart]

theorem blind_mapM {f : α → Action S β} {members : List α}
    (blind : ∀ a ∈ members, Blind put (f a)) :
  Blind put (members.mapM f)
  := by
  induction members with
  | nil => apply blind_pure
  | cons a members ih =>
    rw [List.forall_mem_cons] at blind
    rw [List.mapM_cons]
    apply blind_bind blind.1
    intro b
    apply blind_bind (ih blind.2)
    intro others
    apply blind_pure

end Action

variable {H : Type} {K : HookKind → Type} {σ α : Type}

/-- The world with another configuration in force. -/
def World.withConfig (config : Config K) (world : World H K σ) : World H K σ :=
  { world with config }

theorem World.withRecord_withConfig (record : List (Invocation H K)) (config : Config K)
    (world : World H K σ) :
  (world.withConfig config).withRecord record = (world.withRecord record).withConfig config
  := rfl

/-- A block under a configuration runs from it, whatever is done in it. -/
theorem runsFrom_underConfig (config : Config K) (action : Action (World H K σ) α) :
  Action.RunsFrom World.withConfig config (underConfig config action) action
  := fun world before => runOn_underConfig config action (world.withConfig before)

/-- The calls of a block under a configuration are those that are made from it. -/
theorem traced_underConfig {config : Config K} {action : Action (World H K σ) α}
    {recorded : Action (World H K (σ × List (Invocation H K))) α} {world after : World H K σ}
    {calls : List (Invocation H K)} {outcome : Except Fault α}
    (traced : Action.Traced action recorded (world.withConfig config) calls outcome after)
    (before : Config K) :
  Action.Traced (underConfig config action) (underConfig config recorded) (world.withConfig before)
    calls outcome (after.withConfig before)
  := by
  constructor
  · rw [runsFrom_underConfig config action, traced.run]
  · intro record
    rw [World.withRecord_withConfig, runsFrom_underConfig config recorded,
      ← World.withRecord_withConfig, traced.record]
    rfl

/-- Of blocks within each other, to any depth, the innermost one counts for what is done in it,
and each of them leaves in force what was in force before it. -/
theorem runsFrom_nested (configs : List (Config K)) (config : Config K)
    (action : Action (World H K σ) α) :
  Action.RunsFrom World.withConfig config (configs.foldr underConfig (underConfig config action))
    action
  := by
  induction configs with
  | nil => apply runsFrom_underConfig
  | cons outer configs ih =>
    apply Action.RunsFrom.trans _ (runsFrom_underConfig outer _) ih
    intro _ _ _
    rfl

namespace Behaviour

/-- The operations of a processor run from its configuration, and so do blocks under it, to any
depth. -/
structure ScopedBy (behaviour : Behaviour H K σ) (config : Config K) : Prop where
  expand : ∀ text, Action.RunsFrom World.withConfig config (behaviour.expandUnder config text)
    (behaviour.expand text)
  strip : ∀ text, Action.RunsFrom World.withConfig config (behaviour.stripUnder config text)
    (behaviour.strip text)
  merge : ∀ defaults attributes name,
    Action.RunsFrom World.withConfig config (behaviour.mergeUnder config defaults attributes name)
      (behaviour.merge defaults attributes name)
  /-- The calls that expanding makes are those that it makes from the configuration. -/
  calls : ∀ {text : Text} {world after : World H K σ} {calls : List (Invocation H K)}
    {outcome : Except Fault Text},
    Action.Traced (behaviour.expand text) (behaviour.recording.expand text)
      (world.withConfig config) calls outcome after →
    ∀ before, Action.Traced (behaviour.expandUnder config text)
      (behaviour.recording.expandUnder config text) (world.withConfig before) calls outcome
      (after.withConfig before)
  block : ∀ {α : Type} (configs : List (Config K)) (action : Action (World H K σ) α),
    Action.RunsFrom World.withConfig config
      (configs.foldr underConfig (underConfig config action)) action

/-- Whatever handlers and hooks do, they do it within the scope of the configuration. -/
theorem scopedBy (behaviour : Behaviour H K σ) (config : Config K) :
  behaviour.ScopedBy config
  := by
  constructor
  · intro text
    apply runsFrom_underConfig
  · intro text
    apply runsFrom_underConfig
  · intro defaults attributes name
    apply runsFrom_underConfig
  · intro text world after calls outcome traced before
    apply traced_underConfig traced
  · intro α configs action
    apply runsFrom_nested

end Behaviour

end Shortcode
