import Mathlib.Tactic.Common
import Shortcode.Proofs.Action
import Shortcode.Registry

/-!
# Reachable registries

A registry is reachable if it arises from the empty one by any run of changes, those that
fail included.  In every reachable registry the names are pairwise distinct and have passed
the check of names (`wellFormed_of_reachable`).
-/

namespace Shortcode

namespace Registry

variable {H : Type}

/-- The registry arises from the empty one by a run of changes. -/
inductive Reachable : Registry H → Prop where
  | empty : Reachable .empty
  | change {registry : Registry H} (before : Reachable registry) (change : Change H) :
    Reachable ((apply change).runOn registry).2

/-- The names are pairwise distinct, and each of them can be registered. -/
structure WellFormed (registry : Registry H) : Prop where
  distinct : registry.entries.keys.Nodup
  valid : ∀ name ∈ registry.entries.keys, nameFlaw? name = none

theorem wellFormed_empty :
  WellFormed (empty : Registry H)
  := by
  constructor
  · apply List.nodup_nil
  · intro name inside
    contradiction

theorem keeps_wellFormed_register (name : Text) (binding : Binding H) :
  Action.Keeps WellFormed (register name binding)
  := by
  intro registry wellFormed
  cases valid : nameFlaw? name with
  | some flaw =>
    rw [runOn_register_of_flaw valid]
    apply wellFormed
  | none =>
    rw [runOn_register_of_valid valid]
    constructor
    · apply Entries.nodup_keys_put wellFormed.distinct
    · intro other inside
      rcases Entries.mem_keys_put.mp inside with rfl | inside
      · apply valid
      · apply wellFormed.valid other inside

theorem keeps_wellFormed_apply (change : Change H) :
  Action.Keeps WellFormed (apply change)
  := by
  cases change with
  | register name binding => apply keeps_wellFormed_register
  | registerAll bindings =>
    apply Action.keeps_forM
    intro binding
    apply keeps_wellFormed_register
  | registerUnder names binding =>
    rw [apply]
    split
    · apply Action.keeps_throw
    · apply Action.keeps_forM
      intro name
      apply keeps_wellFormed_register
  | unregister name =>
    apply Action.keeps_modify
    intro registry wellFormed
    constructor
    · apply Entries.nodup_keys_erase wellFormed.distinct
    · intro other inside
      apply wellFormed.valid
      exact (List.filter_sublist.map _).subset inside
  | clear =>
    apply Action.keeps_modify
    intro _ _
    apply wellFormed_empty

/-- The names of a reachable registry are distinct and have passed the check of names. -/
theorem wellFormed_of_reachable {registry : Registry H} (reachable : registry.Reachable) :
  registry.WellFormed
  := by
  induction reachable with
  | empty => apply wellFormed_empty
  | change _ change ih => apply keeps_wellFormed_apply change _ ih

theorem mem_names {registry : Registry H} {name : Text} :
  name ∈ registry.names ↔ name ∈ registry.entries.keys
  := NameSet.mem_ofList

theorem callable_eq_ok_iff {registry : Registry H} {name : Text} {handler : H} :
  registry.callable name = .ok handler ↔ registry.get? name = some (.handler handler)
  := by
  unfold callable
  split <;> simp_all

theorem callable_of_get?_eq_none {registry : Registry H} {name : Text}
    (unbound : registry.get? name = none) :
  registry.callable name = .error (.invalidHandler name .nothing)
  := by
  rw [callable, unbound]

/-- A name that is bound to a handler is registered. -/
theorem mem_names_of_callable {registry : Registry H} {name : Text} {handler : H}
    (bound : registry.callable name = .ok handler) :
  name ∈ registry.names
  := by
  rw [mem_names, ← Entries.has_iff_mem_keys, Entries.has, Option.isSome_iff_exists]
  exact ⟨_, callable_eq_ok_iff.mp bound⟩

/-- The names of a reachable registry are nonempty and contain no delimiters. -/
theorem plain_of_mem_names {registry : Registry H} (reachable : registry.Reachable) {name : Text}
    (inside : name ∈ registry.names) :
  name ≠ [] ∧ ∀ c ∈ name, isDelimiter c = false
  := by
  have valid := (wellFormed_of_reachable reachable).valid name (mem_names.mp inside)
  obtain ⟨nonempty, unreserved⟩ := nameFlaw?_eq_none_iff.mp valid
  use nonempty
  intro c member
  have := unreserved c member
  rw [isReserved, Bool.or_eq_false_iff] at this
  apply this.1

end Registry

end Shortcode
