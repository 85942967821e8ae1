import Shortcode.Proofs.Pass.Carried
import Shortcode.Proofs.Registry.History

/-!
# What is registered is found

Behind any run of changes, the registry holds what the history of the run says, and each name that
is bound to a handler is reached from a text, whatever else is registered: in the tag of that name
that closes itself (`records_and_reached`).
-/

namespace Shortcode

variable {H : Type} {K : HookKind → Type} {σ : Type}

namespace Behaviour

/-- Behind any run of changes, failing ones included, the registry holds what the history of the
run says, and the tag of a name calls the handler that the name is bound to. -/
theorem records_and_reached (behaviour : Behaviour H K σ) (changes : List (Registry.Change H)) :
  (Registry.empty.run changes).Records (Registry.history changes)
    ∧ ∀ world : World H K σ, world.registry = Registry.empty.run changes →
      world.config.Unhooked → ∀ name handler,
      Registry.Stands (Registry.history changes) name (.handler handler) →
      behaviour.callsOf ('[' :: (name ++ ['/', ']'])) world
        = [.handler handler (.positional []) none name]
  := by
  have records := Registry.records_of_run changes
  use records
  intro world same unhooked name handler stands
  have reachable : world.registry.Reachable := by
    rw [same]
    apply Registry.reachable_run .empty
  have bound : world.registry.callable name = .ok handler := by
    rw [Registry.callable_eq_ok_iff, same, records.get?_eq_some_iff]
    apply stands
  have plain : PlainAttributes [] := ⟨.inl rfl, by simp, by simp, by simp⟩
  apply (carries_of_plain reachable unhooked bound plain).1

/-- Several names of which one cannot be registered, a name that is registered again under a
handler it shares, no names at all, and names that are removed and come back. -/
theorem records_and_reached_of_failing :
  let changes : List (Registry.Change Text) :=
    [.registerAll [("a".toList, .handler "x".toList), ("a.b".toList, .value .integer),
        ("c d".toList, .handler "y".toList), ("e".toList, .handler "y".toList)],
      .registerUnder ["a".toList, "b".toList] (.handler "z".toList),
      .registerUnder [] (.handler "w".toList),
      .unregister "b".toList,
      .register "[".toList (.handler "w".toList),
      .register "b".toList (.handler "w".toList)]
  let world : World Text (fun _ => Unit) Nat :=
    { registry := Registry.empty.run changes, rest := 0 }
  (Registry.empty.run changes).Records (Registry.history changes)
    ∧ world.registry = Registry.empty.run changes
    ∧ world.config.Unhooked
    ∧ Registry.Stands (Registry.history changes) "a".toList (.handler "z".toList)
    ∧ counting.callsOf "[a/]".toList world
      = [.handler "z".toList (.positional []) none "a".toList]
  := by
  intro changes world
  have reached := records_and_reached counting changes
  have stands : Registry.Stands (Registry.history changes) "a".toList (.handler "z".toList) := by
    rw [← reached.1.get?_eq_some_iff]
    decide +kernel
  use reached.1, rfl, ⟨rfl, rfl⟩, stands
  exact reached.2 world rfl ⟨rfl, rfl⟩ "a".toList "z".toList stands

end Behaviour

end Shortcode
