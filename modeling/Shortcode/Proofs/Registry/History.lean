import Mathlib.Data.Set.Card
import Shortcode.Proofs.Registry.Reachable

/-!
# The history of a registry

A run of changes, failing ones included, comes to a history of single events: a name is bound,
a name is removed, or all names are.  What a registry holds is what its history says: a name has
the binding that the last event about the name gave it (`records_of_run`).
-/

namespace Shortcode

namespace Registry

variable {H : Type}

/-- What happens to the names of a registry. -/
inductive Event (H : Type) where
  | bound (name : Text) (binding : Binding H)
  | removed (name : Text)
  | cleared

namespace Event

/-- The registry behind the event. -/
def perform (registry : Registry H) : Event H → Registry H
  | bound name binding => { registry with entries := registry.entries.put name binding }
  | removed name => { registry with entries := registry.entries.erase name }
  | cleared => { registry with entries := [] }

/-- The event is about the name. -/
def Touches (name : Text) : Event H → Prop
  | bound other _ => other = name
  | removed other => other = name
  | cleared => True

/-- An event that is not about a name leaves its binding alone. -/
theorem get?_perform_of_not_touches {event : Event H} {name : Text}
    (untouched : ¬ event.Touches name) (registry : Registry H) :
  (event.perform registry).get? name = registry.get? name
  := by
  cases event with
  | bound other binding => apply Entries.get?_put_of_ne (Ne.symm untouched)
  | removed other => apply Entries.get?_erase_of_ne (Ne.symm untouched)
  | cleared => exact absurd trivial untouched

/-- An event about a name binds it, or leaves it without a binding. -/
theorem get?_perform_eq_some_iff {event : Event H} {name : Text} (touched : event.Touches name)
    (registry : Registry H) (binding : Binding H) :
  (event.perform registry).get? name = some binding ↔ event = .bound name binding
  := by
  cases event with
  | bound other binding' =>
    obtain rfl : other = name := touched
    simp [perform, Registry.get?]
  | removed other =>
    obtain rfl : other = name := touched
    simp [perform, Registry.get?]
  | cleared => simp [perform, Registry.get?, Entries.get?]

end Event

/-! ### The events of changes -/

/-- The events of registering names one after the other, up to the first name that cannot be
registered. -/
def registrations (bindings : List (Text × Binding H)) : List (Event H) :=
  (bindings.takeWhile fun (name, _) => nameFlaw? name = none).map fun (name, binding) =>
    .bound name binding

/-- The events of a change. -/
def Change.events : Change H → List (Event H)
  | .register name binding => registrations [(name, binding)]
  | .registerAll bindings => registrations bindings
  | .registerUnder names binding => registrations (names.map (·, binding))
  | .unregister name => [.removed name]
  | .clear => [.cleared]

/-- The events of a run of changes. -/
def history (changes : List (Change H)) : List (Event H) := changes.flatMap Change.events

/-- The registry behind a run of changes on the given one; a change that fails is not the last
one. -/
def run (registry : Registry H) (changes : List (Change H)) : Registry H :=
  changes.foldl (fun registry change => ((apply change).runOn registry).2) registry

theorem reachable_run {registry : Registry H} (reachable : registry.Reachable)
    (changes : List (Change H)) :
  (registry.run changes).Reachable
  := by
  induction changes generalizing registry with
  | nil => apply reachable
  | cons change changes ih => apply ih (.change reachable change)

theorem registrations_cons_of_valid {name : Text} (valid : nameFlaw? name = none)
    (binding : Binding H) (bindings : List (Text × Binding H)) :
  registrations ((name, binding) :: bindings) = .bound name binding :: registrations bindings
  := by
  rw [registrations, List.takeWhile_cons_of_pos (by simp [valid])]
  rfl

theorem registrations_cons_of_flaw {name : Text} {flaw : NameFlaw}
    (flawed : nameFlaw? name = some flaw) (binding : Binding H)
    (bindings : List (Text × Binding H)) :
  registrations ((name, binding) :: bindings) = []
  := by
  rw [registrations, List.takeWhile_cons_of_neg (by simp [flawed])]
  rfl

theorem runOn_register (registry : Registry H) (name : Text) (binding : Binding H) :
  ((register name binding).runOn registry).2
    = (registrations [(name, binding)]).foldl Event.perform registry
  := by
  cases valid : nameFlaw? name with
  | none =>
    rw [runOn_register_of_valid valid, registrations_cons_of_valid valid]
    rfl
  | some flaw =>
    rw [runOn_register_of_flaw valid, registrations_cons_of_flaw valid]
    rfl

/-- Names are registered one after the other, up to the first one that cannot be. -/
theorem runOn_forM_register (registry : Registry H) (bindings : List (Text × Binding H)) :
  ((bindings.forM fun (name, binding) => register name binding).runOn registry).2
    = (registrations bindings).foldl Event.perform registry
  := by
  induction bindings generalizing registry with
  | nil => rfl
  | cons entry bindings ih =>
    obtain ⟨name, binding⟩ := entry
    rw [List.forM_eq_forM, List.forM_cons, Action.runOn_bind]
    cases valid : nameFlaw? name with
    | none =>
      rw [runOn_register_of_valid valid, registrations_cons_of_valid valid]
      apply ih
    | some flaw =>
      rw [runOn_register_of_flaw valid, registrations_cons_of_flaw valid]
      rfl

/-- Names are registered under one binding as they are under a binding each. -/
theorem forM_register_under (names : List Text) (binding : Binding H) :
  (names.forM fun name => register name binding)
    = (names.map (·, binding)).forM fun (name, binding) => register name binding
  := by rw [List.forM_eq_forM, List.forM_eq_forM, List.forM_map]

/-- A change, whether it fails or not, does what its events do. -/
theorem runOn_apply (registry : Registry H) (change : Change H) :
  ((apply change).runOn registry).2 = change.events.foldl Event.perform registry
  := by
  cases change with
  | register name binding => apply runOn_register
  | registerAll bindings => apply runOn_forM_register
  | registerUnder names binding =>
    rw [apply]
    split
    · rename_i none
      rw [List.isEmpty_iff.mp none]
      rfl
    · rw [forM_register_under]
      apply runOn_forM_register
  | unregister name => rfl
  | clear => rfl

/-- A run of changes does what its history says. -/
theorem run_eq_foldl (registry : Registry H) (changes : List (Change H)) :
  registry.run changes = (history changes).foldl Event.perform registry
  := by
  induction changes generalizing registry with
  | nil => rfl
  | cons change changes ih =>
    rw [history, List.flatMap_cons, List.foldl_append, ← runOn_apply]
    apply ih

/-! ### What stands -/

/-- The last event about the name gave it the binding. -/
def Stands (history : List (Event H)) (name : Text) (binding : Binding H) : Prop :=
  ∃ before after, history = before ++ .bound name binding :: after
    ∧ ∀ event ∈ after, ¬ event.Touches name

theorem stands_append_singleton_iff {history : List (Event H)} {event : Event H} {name : Text}
    {binding : Binding H} :
  Stands (history ++ [event]) name binding
    ↔ event = .bound name binding ∨ ¬ event.Touches name ∧ Stands history name binding
  := by
  constructor
  · rintro ⟨before, after, whole, untouched⟩
    rcases List.eq_nil_or_concat after with rfl | ⟨after, last, rfl⟩
    · left
      simpa using (List.append_inj' whole rfl).2
    · right
      rw [List.concat_eq_append] at whole untouched
      rw [← List.cons_append, ← List.append_assoc] at whole
      obtain ⟨rfl, same⟩ := List.append_inj' whole rfl
      obtain rfl := List.singleton_inj.mp same
      constructor
      · apply untouched
        simp
      · use before, after, rfl
        intro other inside
        apply untouched
        simp [inside]
  · rintro (rfl | ⟨untouched, before, after, rfl, untouched'⟩)
    · exact ⟨history, [], rfl, by simp⟩
    · use before, after ++ [event]
      constructor
      · simp
      · intro other inside
        rcases List.mem_append.mp inside with inside | inside
        · apply untouched' other inside
        · rwa [List.mem_singleton.mp inside]

/-- Behind a history, a name has the binding that stands. -/
theorem get?_foldl_eq_some_iff {history : List (Event H)} {name : Text} {binding : Binding H} :
  (history.foldl Event.perform empty).get? name = some binding ↔ Stands history name binding
  := by
  -- The last event decides, or leaves the name to those before it.
  induction history using List.reverseRecOn with
  | nil => simp [Stands, empty, get?, Entries.get?]
  | append_singleton history event ih =>
    rw [List.foldl_append, List.foldl_cons, List.foldl_nil, stands_append_singleton_iff]
    by_cases touched : event.Touches name
    · rw [Event.get?_perform_eq_some_iff touched]
      simp [touched]
    · rw [Event.get?_perform_of_not_touches touched, ih]
      have other : event ≠ .bound name binding := by
        rintro rfl
        exact touched rfl
      simp [touched, other]

/-- The names that have a binding. -/
def tags (history : List (Event H)) : Set Text := {name | ∃ binding, Stands history name binding}

/-- The registry holds what its history says, and all that it answers agrees with that. -/
structure Records (history : List (Event H)) (registry : Registry H) : Prop where
  distinct : registry.entries.keys.Nodup
  /-- The names are not empty, and contain no blank and no control characters, and none of those
  that tags are made of. -/
  usable : ∀ name ∈ registry.names,
    name ≠ [] ∧ ∀ c ∈ name, isBlank c = false ∧ 0x20 < c.toNat ∧ c ∉ "<>&/[]=".toList
  get?_eq_some_iff : ∀ name binding,
    registry.get? name = some binding ↔ Stands history name binding
  get?_eq_none_iff : ∀ name, registry.get? name = none ↔ name ∉ tags history
  size_eq : (tags history).encard = registry.size
  isEmpty_iff : registry.isEmpty ↔ tags history = ∅
  has_iff : ∀ name, registry.has name ↔ name ∈ tags history
  mem_names_iff : ∀ name, name ∈ registry.names ↔ name ∈ tags history

/-- What a name without reserved characters does not contain. -/
theorem plain_of_isReserved_eq_false {c : Char} (plain : isReserved c = false) :
  isBlank c = false ∧ 0x20 < c.toNat ∧ c ∉ "<>&/[]=".toList
  := by
  rw [isReserved, isDelimiter, Bool.or_eq_false_iff, Bool.or_eq_false_iff] at plain
  obtain ⟨⟨high, mark⟩, visible⟩ := plain
  rw [decide_eq_false_iff_not] at high
  rw [Bool.eq_false_iff, ne_eq, List.elem_iff] at mark
  exact ⟨visible, by omega, mark⟩

/-- Behind any run of changes on the empty registry, the registry holds what the history of the
run says. -/
theorem records_of_run (changes : List (Change H)) :
  (empty.run changes).Records (history changes)
  := by
  have wellFormed := wellFormed_of_reachable (reachable_run .empty changes)
  have looked : ∀ name binding, (empty.run changes).get? name = some binding
      ↔ Stands (history changes) name binding := by
    intro name binding
    rw [run_eq_foldl, get?_foldl_eq_some_iff]
  have has_iff : ∀ name, (empty.run changes).has name ↔ name ∈ tags (history changes) := by
    intro name
    rw [has, Entries.has, Option.isSome_iff_exists]
    apply exists_congr (looked name)
  have mem_keys : ∀ name, name ∈ (empty.run changes).entries.keys
      ↔ name ∈ tags (history changes) := by
    intro name
    rw [← Entries.has_iff_mem_keys]
    apply has_iff
  have all : tags (history changes) = {name | name ∈ (empty.run changes).entries.keys} := by
    ext name
    rw [← mem_keys]
    rfl
  constructor
  · apply wellFormed.distinct
  · intro name inside
    have valid := wellFormed.valid name (mem_names.mp inside)
    obtain ⟨nonempty, plain⟩ := nameFlaw?_eq_none_iff.mp valid
    use nonempty
    intro c member
    apply plain_of_isReserved_eq_false (plain c member)
  · apply looked
  · intro name
    rw [← has_iff, has, Entries.has, Option.not_isSome_iff_eq_none]
    rfl
  · rw [all, ← List.coe_toFinset, Set.encard_coe_eq_coe_finsetCard,
      List.toFinset_card_of_nodup wellFormed.distinct]
    simp [size, Entries.keys]
  · rw [all, isEmpty, List.isEmpty_iff, Set.eq_empty_iff_forall_notMem]
    simp [Entries.keys, List.eq_nil_iff_forall_not_mem]
  · apply has_iff
  · intro name
    rw [mem_names]
    apply mem_keys

end Registry

end Shortcode
