import Shortcode.Proofs.Config.Scope
import Shortcode.Session.Run

/-!
# Configurations in a session

A task on a processor runs from the configuration of the processor (`runsFrom_runOnProcessor`), a
block from its own, and a thread from the default one.  Such steps are blind to the configuration in
force, and so is any run of them (`exists_runAll_of_isEnclosed`): what they do is the same whatever
it is, and behind them it is in force again.
-/

namespace Shortcode

namespace Session

variable {α : Type}

/-- The session with another configuration in force. -/
def withConfig (config : Config Hook) (session : Session) : Session := { session with config }

/-- The world of the registry of a number. -/
def worldOf (number : Nat) (session : Session) : Workspace where
  registry := session.registryAt number
  config := session.config
  rest := session.trail

/-- What becomes of the session when the world of the registry of a number becomes another one. -/
def become (number : Nat) (world : Workspace) (session : Session) : Session :=
  { session with
    registries := session.registries.set number world.registry
    config := world.config
    trail := world.rest }

theorem runOn_within (number : Nat) (action : Action Workspace α) (session : Session) :
  (within number action).runOn session
    = ((action.runOn (session.worldOf number)).1,
      session.become number (action.runOn (session.worldOf number)).2)
  := rfl

theorem worldOf_withConfig (number : Nat) (config : Config Hook) (session : Session) :
  (session.withConfig config).worldOf number = (session.worldOf number).withConfig config
  := rfl

theorem become_withConfig (number : Nat) (config before : Config Hook) (world : Workspace)
    (session : Session) :
  (session.withConfig before).become number (world.withConfig config)
    = (session.become number world).withConfig config
  := rfl

theorem blind_within {action : Action Workspace α} (blind : Action.Blind World.withConfig action)
    (number : Nat) :
  Action.Blind withConfig (within number action)
  := by
  intro session
  obtain ⟨outcome, after, run⟩ := blind (session.worldOf number)
  use outcome, session.become number after
  intro before
  rw [runOn_within, worldOf_withConfig, run, become_withConfig]

/-- In a session as in the world of a registry, the same configuration counts. -/
theorem runsFrom_within {config : Config Hook} {action bare : Action Workspace α}
    (runsFrom : Action.RunsFrom World.withConfig config action bare) (number : Nat) :
  Action.RunsFrom withConfig config (within number action) (within number bare)
  := by
  intro session before
  rw [runOn_within, runOn_within, worldOf_withConfig, worldOf_withConfig, runsFrom,
    become_withConfig]
  rfl

theorem blind_install (binding : Binding Script) :
  Action.Blind withConfig (install binding)
  := by
  apply Action.blind_focus
  · intro _ _
    rfl
  · intro _ _ _
    rfl

theorem blind_installAll (bindings : List (Text × Binding Script)) :
  Action.Blind withConfig (installAll bindings)
  := by
  apply Action.blind_mapM
  intro binding _
  apply Action.blind_bind (blind_install binding.2)
  intro _
  apply Action.blind_pure

theorem blind_installChange (change : Registry.Change Script) :
  Action.Blind withConfig (installChange change)
  := by
  cases change with
  | register name binding =>
    apply Action.blind_bind (blind_install binding)
    intro _
    apply Action.blind_pure
  | registerAll bindings =>
    apply Action.blind_bind (blind_installAll _)
    intro _
    apply Action.blind_pure
  | registerUnder names binding =>
    apply Action.blind_bind (blind_install binding)
    intro _
    apply Action.blind_pure
  | unregister name => apply Action.blind_pure
  | clear => apply Action.blind_pure

theorem blind_changeRegistry (number : Nat) (change : Registry.Change Script) :
  Action.Blind withConfig (changeRegistry number change)
  := by
  apply Action.blind_bind (blind_installChange change)
  intro change
  apply blind_within
  apply Action.blind_focus
  · intro _ _
    rfl
  · intro _ _ _
    rfl

/-! ### Tasks on processors -/

theorem blind_createProcessor (name : Text) (registry : Option Text) (config : Config Hook) :
  Action.Blind withConfig (createProcessor name registry config)
  := by
  have put : ∀ number : Nat, Action.Blind withConfig
      (modify fun session : Session =>
        { session with
          processors := session.processors.put name { registry := number, config } }) := by
    intro number session
    use .ok ⟨⟩, { session with
      processors := session.processors.put name { registry := number, config } }
    intro before
    rfl
  unfold createProcessor
  cases registry with
  | some registry =>
    apply Action.blind_get
    · intro _ _
      rfl
    · intro session
      apply Action.blind_bind (Action.blind_lift _) put
  | none =>
    apply Action.blind_bind _ put
    intro session
    use .ok session.registries.length, { session with registries := session.registries ++ [.empty] }
    intro before
    rfl

/-- What a task on a processor does under the configuration in force, rather than under the one
of the processor. -/
def runInForce (processor : Processor) : ProcessorTask → Action Session Reply
  | .expand text => return .text (← within processor.registry (Workspace.expand text))
  | .strip text => return .text (← within processor.registry (Workspace.strip text))
  | .merge defaults attributes shortcode =>
    return .entries
      (← within processor.registry (Workspace.merge defaults attributes shortcode))
  | task => runOnProcessor processor task

theorem runsFrom_of_blind {config : Config Hook} {action : Action Session α}
    (blind : Action.Blind withConfig action) :
  Action.RunsFrom withConfig config action action
  := by
  apply blind.runsFrom
  intro _ _ _
  rfl

/-- What is done with the registry of a processor, under its configuration, runs from it. -/
theorem runsFrom_own (processor : Processor) (action : Action Workspace α) (reply : α → Reply) :
  Action.RunsFrom withConfig processor.config
    (within processor.registry (underConfig processor.config action) >>= fun a => pure (reply a))
    (within processor.registry action >>= fun a => pure (reply a))
  := by
  apply Action.RunsFrom.map
  apply runsFrom_within
  apply runsFrom_underConfig

/-- A task on a processor runs from the configuration of the processor. -/
theorem runsFrom_runOnProcessor (processor : Processor) (task : ProcessorTask) :
  Action.RunsFrom withConfig processor.config (runOnProcessor processor task)
    (runInForce processor task)
  := by
  cases task with
  | create registry config =>
    apply runsFrom_of_blind
    apply Action.blind_pure
  | hooks =>
    apply runsFrom_of_blind
    apply Action.blind_pure
  | shares registry =>
    apply runsFrom_of_blind
    apply Action.blind_get
    · intro _ _
      rfl
    · intro session
      apply Action.blind_bind (Action.blind_lift _)
      intro number
      apply Action.blind_pure
  | change change =>
    apply runsFrom_of_blind
    apply Action.blind_bind (blind_changeRegistry processor.registry change)
    intro _
    apply Action.blind_pure
  | has name =>
    apply runsFrom_of_blind
    apply Action.blind_get
    · intro _ _
      rfl
    · intro session
      apply Action.blind_pure
  | expand text =>
    apply runsFrom_own
  | strip text =>
    apply runsFrom_own
  | hasShortcode text name =>
    apply runsFrom_of_blind
    apply Action.blind_bind
    · apply blind_within
      apply Action.blind_get
      · intro _ _
        rfl
      · intro world
        apply Action.blind_pure
    · intro found
      apply Action.blind_pure
  | merge defaults attributes shortcode =>
    apply runsFrom_own
  | pattern names =>
    apply runsFrom_of_blind
    apply Action.blind_get
    · intro _ _
      rfl
    · intro session
      apply Action.blind_bind (Action.blind_lift _)
      intro pattern
      apply Action.blind_pure

/-- No task on a processor sees the configuration in force, or changes it. -/
theorem blind_runProcessorTask (name : Text) (task : ProcessorTask) :
  Action.Blind withConfig (runProcessorTask name task)
  := by
  have others : Action.Blind withConfig (do
      runOnProcessor (← Action.lift (lookup (← get).processors name)) task) := by
    apply Action.blind_get
    · intro _ _
      rfl
    · intro session
      apply Action.blind_bind (Action.blind_lift _)
      intro processor
      apply (runsFrom_runOnProcessor processor task).blind
  cases task with
  | create registry config =>
    apply Action.blind_bind (blind_createProcessor name registry config)
    intro _
    apply Action.blind_pure
  | _ => apply others

/-! ### Steps -/

/-- The step is a task on a processor, a block under a configuration, or a thread; what is done in
a block or a thread is left open. -/
def isEnclosed : Step → Bool
  | .task (.processor _ _) => true
  | .task _ => false
  | .withConfig _ _ _ => true
  | .thread _ => true

theorem answerTask_eq {task : Task} {session after : Session} {outcome : Except Fault Reply}
    (ran : (runTask task).runOn { session with trail := session.trail.forgetCalls }
      = (outcome, after)) :
  answerTask task session
    = ({ outcome, calls := after.trail.calls.toList, names := after.namesAbout task }, after)
  := by
  rw [answerTask, ran]

/-- A task on a processor has one answer and one effect, whatever is in force. -/
theorem exists_answer_of_processor (name : Text) (task : ProcessorTask) (session : Session) :
  ∃ (answer : Answer Reply) (after : Session), ∀ before,
    run (.task (.processor name task)) (session.withConfig before)
      = (answer, after.withConfig before)
  := by
  obtain ⟨outcome, after, ran⟩ := blind_runProcessorTask name task
    { session with trail := session.trail.forgetCalls }
  let answer : Answer Reply :=
    { outcome, calls := after.trail.calls.toList,
      names := after.namesAbout (.processor name task) }
  use answer, after
  intro before
  rw [run]
  exact @answerTask_eq (.processor name task) (session.withConfig before) _ _ (ran before)

/-- The steps of a block answer as from its configuration, whatever is in force before it, and
this is in force again behind it. -/
theorem run_withConfig (config : Config Hook) (steps : List Step) (fault : Option Fault)
    (session : Session) (before : Config Hook) :
  run (.withConfig config steps fault) (session.withConfig before)
    = (blockAnswer (runAll steps (session.withConfig config)).1 fault
        ((runAll steps (session.withConfig config)).2.withConfig before),
      (runAll steps (session.withConfig config)).2.withConfig before)
  := rfl

/-- A thread starts from the default configuration, whatever is in force before it, and this is
in force again behind it. -/
theorem run_thread (steps : List Step) (session : Session) (before : Config Hook) :
  run (.thread steps) (session.withConfig before)
    = (blockAnswer (runAll steps (session.withConfig .default)).1 none
        ((runAll steps (session.withConfig .default)).2.withConfig before),
      (runAll steps (session.withConfig .default)).2.withConfig before)
  := rfl

/-- An enclosed step has one effect, whatever is in force, and leaves it in force. -/
theorem exists_run_of_isEnclosed {step : Step} (enclosed : isEnclosed step) (session : Session) :
  ∃ after : Session, ∀ before, (run step (session.withConfig before)).2 = after.withConfig before
  := by
  cases step with
  | task task =>
    cases task with
    | processor name task =>
      obtain ⟨answer, after, ran⟩ := exists_answer_of_processor name task session
      use after
      intro before
      rw [ran]
    | _ => contradiction
  | withConfig config steps fault =>
    use (runAll steps (session.withConfig config)).2
    intro before
    rw [run_withConfig]
  | thread steps =>
    use (runAll steps (session.withConfig .default)).2
    intro before
    rw [run_thread]

/-- So has a run of enclosed steps. -/
theorem exists_runAll_of_isEnclosed {steps : List Step}
    (enclosed : ∀ step ∈ steps, isEnclosed step) (session : Session) :
  ∃ after : Session, ∀ before,
    (runAll steps (session.withConfig before)).2 = after.withConfig before
  := by
  induction steps generalizing session with
  | nil =>
    use session
    intro before
    rw [runAll]
  | cons step steps ih =>
    obtain ⟨first, others⟩ := List.forall_mem_cons.mp enclosed
    obtain ⟨between, ran⟩ := exists_run_of_isEnclosed first session
    obtain ⟨after, ran'⟩ := ih others between
    use after
    intro before
    rw [runAll]
    dsimp only
    rw [ran, ran']

/-- Whatever handlers and hooks do, the operations of processors and blocks run from the
configuration of their own, and what was in force before them is in force again behind them, even
if they fail.  In a session, this holds of the tasks on processors and of blocks, and threads start
from the default configuration: each of these gives the same answers and has the same effect,
whatever is in force before it, and leaves that in force, and so does any run of them. -/
theorem configs_are_scoped :
  (∀ {H : Type} {K : HookKind → Type} {σ : Type} (behaviour : Behaviour H K σ)
      (config : Config K), behaviour.ScopedBy config)
    ∧ (∀ processor task,
      Action.RunsFrom withConfig processor.config (runOnProcessor processor task)
        (runInForce processor task))
    ∧ ∀ session : Session,
      (∀ name task, ∃ (answer : Answer Reply) (after : Session), ∀ before,
        run (.task (.processor name task)) (session.withConfig before)
          = (answer, after.withConfig before))
      ∧ (∀ config steps fault, ∃ (answers : List (Answer Reply)) (after : Session),
        runAll steps (session.withConfig config) = (answers, after)
          ∧ ∀ before, run (.withConfig config steps fault) (session.withConfig before)
            = (blockAnswer answers fault (after.withConfig before), after.withConfig before))
      ∧ (∀ steps, ∃ (answers : List (Answer Reply)) (after : Session),
        runAll steps (session.withConfig .default) = (answers, after)
          ∧ ∀ before, run (.thread steps) (session.withConfig before)
            = (blockAnswer answers none (after.withConfig before), after.withConfig before))
      ∧ ∀ steps, (∀ step ∈ steps, isEnclosed step) →
        ∃ after : Session, ∀ before,
          (runAll steps (session.withConfig before)).2 = after.withConfig before
  := by
  use Behaviour.scopedBy, runsFrom_runOnProcessor
  intro session
  refine ⟨?task, ?block, ?thread, ?run⟩
  case task =>
    intro name task
    apply exists_answer_of_processor
  case block =>
    intro config steps fault
    use (runAll steps (session.withConfig config)).1, (runAll steps (session.withConfig config)).2,
      rfl
    apply run_withConfig
  case thread =>
    intro steps
    use (runAll steps (session.withConfig .default)).1,
      (runAll steps (session.withConfig .default)).2, rfl
    apply run_thread
  case run =>
    intro steps enclosed
    apply exists_runAll_of_isEnclosed enclosed

/-- A processor whose handlers put a configuration in force and fail, before, in and behind a block
that is left by a fault, and in a thread: its task, the block, the thread and the run of them all. -/
theorem configs_are_scoped_of_failing :
  let setting : Config Hook := { postDispatch := some (.surround ['<'] ['>']) }
  let failed : Fault := .raised .runtime "b".toList
  let left : Fault := .raised .runtime "c".toList
  let processor : Processor := { registry := 0, config := { preDispatch := some .proceed } }
  let session : Session :=
    { registries := [⟨[("a".toList, .handler ⟨1, .setConfig setting⟩),
        ("b".toList, .handler ⟨2, .fail failed⟩)]⟩]
      processors := [("p".toList, processor)] }
  let text := "[a/][b/]".toList
  let call : Step := .task (.processor "p".toList (.expand text))
  let inBlock : List Step :=
    [call, .task (.setConfig .default), .thread [call, .task .resetConfig]]
  let inThread : List Step := [.task (.setConfig setting), call]
  let steps : List Step :=
    [call, .withConfig setting inBlock (some left), .thread inThread, call]
  (Script.behaviourFor text).ScopedBy processor.config
    ∧ Action.RunsFrom withConfig processor.config (runOnProcessor processor (.expand text))
      (runInForce processor (.expand text))
    ∧ (∃ (answer : Answer Reply) (after : Session), answer.outcome = .error failed
      ∧ ∀ before, run call (session.withConfig before) = (answer, after.withConfig before))
    ∧ (∃ (answers : List (Answer Reply)) (after : Session),
      runAll inBlock (session.withConfig setting) = (answers, after)
        ∧ ∀ before, run (.withConfig setting inBlock (some left)) (session.withConfig before)
          = (blockAnswer answers (some left) (after.withConfig before), after.withConfig before))
    ∧ (∃ (answers : List (Answer Reply)) (after : Session),
      runAll inThread (session.withConfig .default) = (answers, after)
        ∧ ∀ before, run (.thread inThread) (session.withConfig before)
          = (blockAnswer answers none (after.withConfig before), after.withConfig before))
    ∧ (∀ step ∈ steps, isEnclosed step)
    ∧ ∃ after : Session, ∀ before,
      (runAll steps (session.withConfig before)).2 = after.withConfig before
  := by
  intro setting failed left processor session text call inBlock inThread steps
  have enclosed : ∀ step ∈ steps, isEnclosed step := by
    apply List.all_eq_true.mp
    rfl
  have fails : (run call (session.withConfig .default)).1.outcome = .error failed := rfl
  obtain ⟨behaviours, runs, sessions⟩ := configs_are_scoped
  obtain ⟨tasks, blocks, threads, all⟩ := sessions session
  refine ⟨behaviours _ _, runs _ _, ?_, blocks _ _ _, threads _, enclosed, all steps enclosed⟩
  obtain ⟨answer, after, same⟩ := tasks "p".toList (.expand text)
  use answer, after
  rw [← fails, same]
  exact ⟨rfl, same⟩

end Session

end Shortcode
