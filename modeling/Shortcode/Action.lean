import Shortcode.Fault

/-!
# Actions

An action reads and changes a state and either gives a result or fails.  What it changed
before it failed stays changed.  `Action.runOn` runs an action on a state, and the lemmas
about it say what each way of building actions does.
-/

namespace Shortcode

/-- An action on states of type `σ` with results of type `α`. -/
abbrev Action (σ α : Type) : Type := ExceptT Fault (StateM σ) α

namespace Action

variable {σ τ α β : Type}

/-- The outcome of an action on a state, and the state behind it. -/
def runOn (action : Action σ α) (state : σ) : Except Fault α × σ := action.run.run state

/-- The action with the given outcomes. -/
def of (run : σ → Except Fault α × σ) : Action σ α := ExceptT.mk fun state => run state

/-- Give a result that is already known, or fail. -/
def lift (result : Except Fault α) : Action σ α := of fun state => (result, state)

/-- Run an action on a part of the state. -/
def focus (get : σ → τ) (set : τ → σ → σ) (action : Action τ α) : Action σ α :=
  of fun state =>
    let (outcome, part) := action.runOn (get state)
    (outcome, set part state)

@[simp]
theorem runOn_of (run : σ → Except Fault α × σ) (state : σ) :
  (of run).runOn state = run state
  := rfl

@[simp]
theorem runOn_throw (fault : Fault) (state : σ) :
  (throw fault : Action σ α).runOn state = (.error fault, state)
  := rfl

@[simp]
theorem runOn_lift (result : Except Fault α) (state : σ) :
  (lift result : Action σ α).runOn state = (result, state)
  := rfl

@[simp]
theorem runOn_get (state : σ) :
  (get : Action σ σ).runOn state = (.ok state, state)
  := rfl

@[simp]
theorem runOn_modify (f : σ → σ) (state : σ) :
  (modify f : Action σ PUnit).runOn state = (.ok ⟨⟩, f state)
  := rfl

/-- An action that fails is not continued. -/
theorem runOn_bind (action : Action σ α) (next : α → Action σ β) (state : σ) :
  (action >>= next).runOn state
    = match action.runOn state with
      | (.ok a, state') => (next a).runOn state'
      | (.error fault, state') => (.error fault, state')
  := by
  change (ExceptT.bindCont next (action state).1).run (action state).2 = _
  simp only [runOn, ExceptT.run, StateT.run]
  cases action state with
  | mk outcome state' => cases outcome <;> rfl

/-- What is done at last is done whether the action fails or not.  If it fails itself, its own
fault is the one that counts. -/
theorem runOn_tryFinally (action : Action σ α) (last : Action σ β) (state : σ) :
  (tryFinally action last).runOn state
    = match action.runOn state with
      | (outcome, between) =>
        match last.runOn between with
        | (.ok _, after) => (outcome, after)
        | (.error fault, after) => (.error fault, after)
  := by
  simp only [runOn, ExceptT.run, StateT.run, tryFinally, tryFinally', ExceptT.mk, Functor.map,
    ExceptT.map, StateT.bind, bind, pure]
  cases action state with
  | mk outcome between =>
    cases outcome with
    | ok a =>
      dsimp only
      cases last between with
      | mk given after => cases given <;> rfl
    | error fault =>
      dsimp only
      cases last between with
      | mk given after => cases given <;> rfl

end Action

end Shortcode
