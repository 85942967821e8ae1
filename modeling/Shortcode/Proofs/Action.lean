import Shortcode.Action

/-!
# What actions keep

An action keeps a property of states if the property holds behind the action whenever it held
before, even if the action fails.
-/

namespace Shortcode

namespace Action

variable {σ α β : Type} {P : σ → Prop}

/-- The property holds behind the action if it held before. -/
def Keeps (P : σ → Prop) (action : Action σ α) : Prop :=
  ∀ state, P state → P (action.runOn state).2

theorem holds_after {action : Action σ α} {state after : σ} {outcome : Except Fault α}
    (keeps : Keeps P action) (run : action.runOn state = (outcome, after)) (holds : P state) :
  P after
  := by
  have kept := keeps state holds
  rwa [run] at kept

theorem keeps_pure (a : α) :
  Keeps P (pure a : Action σ α)
  := fun _ holds => holds

theorem keeps_throw (fault : Fault) :
  Keeps P (throw fault : Action σ α)
  := fun _ holds => holds

theorem keeps_modify {f : σ → σ} (keeps : ∀ state, P state → P (f state)) :
  Keeps P (modify f : Action σ PUnit)
  := keeps

/-- Of two actions, the second one need not keep the property if the first one fails. -/
theorem keeps_bind {action : Action σ α} {next : α → Action σ β} (first : Keeps P action)
    (second : ∀ a, Keeps P (next a)) :
  Keeps P (action >>= next)
  := by
  intro state holds
  have between := first state holds
  rw [runOn_bind]
  cases run : action.runOn state with
  | mk outcome state' =>
    rw [run] at between
    cases outcome with
    | ok a => apply second a state' between
    | error fault => apply between

theorem keeps_forM {action : α → Action σ PUnit} (keeps : ∀ a, Keeps P (action a))
    (members : List α) :
  Keeps P (members.forM action)
  := by
  induction members with
  | nil => exact keeps_pure PUnit.unit
  | cons a members ih => exact keeps_bind (keeps a) fun _ => ih

end Action

end Shortcode
