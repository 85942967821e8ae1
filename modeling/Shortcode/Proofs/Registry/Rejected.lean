import Shortcode.Proofs.Registry.History

/-!
# Rejected registrations

Several names are registered one after the other, up to the first one that cannot be registered.
A registration that is rejected leaves the registry as it is, as far as that name goes, but those
in front of it stand.  So a change that is rejected keeps all bindings exactly if those in front of
the rejected name were there before (`Registry.keeps_bindings_iff_of_rejected`).
-/

namespace Shortcode

namespace Entries

variable {α : Type}

theorem putAll_concat (pairs : List (Text × α)) (key : Text) (value : α) (entries : Entries α) :
  putAll (pairs ++ [(key, value)]) entries = (putAll pairs entries).put key value
  := by rw [putAll, List.foldl_append, putAll, List.foldl_cons, List.foldl_nil]

/-- Under a key, the last value that was put there is found, or else what was there before. -/
theorem get?_putAll (pairs : List (Text × α)) (key : Text) (entries : Entries α) :
  (putAll pairs entries).get? key = ((ofPairs pairs).get? key).or (entries.get? key)
  := by
  -- The last pair decides, or leaves the key to those before it.
  induction pairs using List.reverseRecOn with
  | nil => rfl
  | append_singleton pairs last ih =>
    obtain ⟨other, value⟩ := last
    rw [ofPairs, putAll_concat, putAll_concat]
    by_cases same : key = other
    · rw [same, get?_put_self, get?_put_self, Option.some_or]
    · rw [get?_put_of_ne same, get?_put_of_ne same, ih, ofPairs]

end Entries

namespace Registry

variable {H : Type}

/-- The registrations that make up a change, in order. -/
def Change.bindings : Change H → List (Text × Binding H)
  | .register name binding => [(name, binding)]
  | .registerAll bindings => bindings
  | .registerUnder names binding => names.map (·, binding)
  | .unregister _ => []
  | .clear => []

/-- Of the names to be registered, the given one is the first that cannot be; `before` are the
registrations in front of it. -/
structure StopsAt (bindings before : List (Text × Binding H)) (name : Text) (flaw : NameFlaw) :
    Prop where
  split : ∃ binding after, bindings = before ++ (name, binding) :: after
  valid : ∀ entry ∈ before, nameFlaw? entry.1 = none
  flawed : nameFlaw? name = some flaw

variable {bindings before : List (Text × Binding H)} {name : Text} {flaw : NameFlaw}

/-- Names that can be registered are, and those behind them come next. -/
theorem runOn_forM_register_append (valid : ∀ entry ∈ before, nameFlaw? entry.1 = none)
    (rest : List (Text × Binding H)) (registry : Registry H) :
  ((before ++ rest).forM fun (name, binding) => register name binding).runOn registry
    = (rest.forM fun (name, binding) => register name binding).runOn
      { registry with entries := registry.entries.putAll before }
  := by
  induction before generalizing registry with
  | nil => rfl
  | cons entry before ih =>
    rw [List.forall_mem_cons] at valid
    rw [List.cons_append, List.forM_eq_forM, List.forM_cons, Action.runOn_bind,
      runOn_register_of_valid valid.1]
    apply ih valid.2

theorem runOn_forM_register_of_valid (valid : ∀ entry ∈ bindings, nameFlaw? entry.1 = none)
    (registry : Registry H) :
  (bindings.forM fun (name, binding) => register name binding).runOn registry
    = (.ok (), { registry with entries := registry.entries.putAll bindings })
  := by
  have whole := runOn_forM_register_append valid [] registry
  rw [List.append_nil] at whole
  apply whole

/-- The registrations in front of the first name that cannot be registered stand. -/
theorem runOn_forM_register_of_stopsAt (stops : StopsAt bindings before name flaw)
    (registry : Registry H) :
  (bindings.forM fun (name, binding) => register name binding).runOn registry
    = (.error (.invalidName name flaw),
      { registry with entries := registry.entries.putAll before })
  := by
  obtain ⟨binding, after, rfl⟩ := stops.split
  rw [runOn_forM_register_append stops.valid, List.forM_eq_forM, List.forM_cons, Action.runOn_bind,
    runOn_register_of_flaw stops.flawed]

/-- If not all names can be registered, there is a first one that cannot. -/
theorem exists_stopsAt (bindings : List (Text × Binding H)) :
  (∀ entry ∈ bindings, nameFlaw? entry.1 = none)
    ∨ ∃ before name flaw, StopsAt bindings before name flaw
  := by
  induction bindings with
  | nil => simp
  | cons entry bindings ih =>
    obtain ⟨name, binding⟩ := entry
    cases found : nameFlaw? name with
    | some flaw =>
      right
      use [], name, flaw
      constructor
      · use binding, bindings
        rfl
      · simp
      · apply found
    | none =>
      rcases ih with valid | ⟨before, other, flaw, ⟨binding', after, rfl⟩, valid, flawed⟩
      · left
        rw [List.forall_mem_cons]
        exact ⟨found, valid⟩
      · right
        use (name, binding) :: before, other, flaw
        constructor
        · use binding', after
          rfl
        · rw [List.forall_mem_cons]
          exact ⟨found, valid⟩
        · apply flawed

theorem runOn_forM_register_of_rejected {registry : Registry H}
    (rejected : ((bindings.forM fun (name, binding) => register name binding).runOn registry).1
      = .error (.invalidName name flaw)) :
  ∃ before, StopsAt bindings before name flaw
    ∧ ((bindings.forM fun (name, binding) => register name binding).runOn registry).2
      = { registry with entries := registry.entries.putAll before }
  := by
  rcases exists_stopsAt bindings with valid | ⟨before, other, flaw', stops⟩
  · rw [runOn_forM_register_of_valid valid] at rejected
    contradiction
  · rw [runOn_forM_register_of_stopsAt stops] at rejected
    obtain ⟨rfl, rfl⟩ := Fault.invalidName.inj (Except.error.inj rejected)
    use before, stops
    rw [runOn_forM_register_of_stopsAt stops]

/-- A change that is rejected stops at the first name that cannot be registered, and what it
registered before stands. -/
theorem runOn_apply_of_rejected {registry : Registry H} {change : Change H}
    (rejected : ((apply change).runOn registry).1 = .error (.invalidName name flaw)) :
  ∃ before, StopsAt change.bindings before name flaw
    ∧ ((apply change).runOn registry).2
      = { registry with entries := registry.entries.putAll before }
  := by
  cases change with
  | register other binding =>
    change ((register other binding).runOn registry).1 = _ at rejected
    cases found : nameFlaw? other with
    | none =>
      rw [runOn_register_of_valid found] at rejected
      contradiction
    | some flaw' =>
      rw [runOn_register_of_flaw found] at rejected
      obtain ⟨rfl, rfl⟩ := Fault.invalidName.inj (Except.error.inj rejected)
      use []
      constructor
      · constructor
        · use binding, []
          rfl
        · simp
        · apply found
      · change ((register other binding).runOn registry).2 = _
        rw [runOn_register_of_flaw found]
        rfl
  | registerAll bindings => apply runOn_forM_register_of_rejected rejected
  | registerUnder names binding =>
    by_cases none : names.isEmpty
    · rw [apply, if_pos none, Action.runOn_throw] at rejected
      have other := Except.error.inj rejected
      contradiction
    · rw [apply, if_neg none, forM_register_under] at rejected ⊢
      apply runOn_forM_register_of_rejected rejected
  | unregister name => contradiction
  | clear => contradiction

/-- Behind a change that is rejected, each name has the binding that the registrations in front of
the rejected name gave it at last, or else the one from before.  All bindings are kept exactly if
those registrations repeat what was there. -/
theorem keeps_bindings_iff_of_rejected {registry : Registry H} {change : Change H}
    (rejected : ((apply change).runOn registry).1 = .error (.invalidName name flaw)) :
  let after := ((apply change).runOn registry).2
  ∃ before, StopsAt change.bindings before name flaw
    ∧ (∀ other, after.get? other
      = ((Entries.ofPairs before).get? other).or (registry.get? other))
    ∧ ((∀ other, after.get? other = registry.get? other)
      ↔ ∀ other binding, (Entries.ofPairs before).get? other = some binding →
        registry.get? other = some binding)
  := by
  intro after
  obtain ⟨before, stops, stands⟩ := runOn_apply_of_rejected rejected
  have looked : ∀ other, after.get? other
      = ((Entries.ofPairs before).get? other).or (registry.get? other) := by
    intro other
    change ((apply change).runOn registry).2.get? other = _
    rw [stands]
    apply Entries.get?_putAll
  use before, stops, looked
  apply forall_congr'
  intro other
  rw [looked]
  cases (Entries.ofPairs before).get? other with
  | none => simp
  | some binding => simp [eq_comm]

/-- Several names of which one cannot be registered, behind a name that is given the binding that
it has. -/
theorem keeps_bindings_iff_of_repeated :
  let registry : Registry Text :=
    empty.run [.registerAll [("a".toList, .handler "x".toList), ("b".toList, .value .integer)]]
  let change : Change Text :=
    .registerAll [("b".toList, .value .integer), ("c=d".toList, .handler "y".toList),
      ("a".toList, .handler "z".toList)]
  let after := ((apply change).runOn registry).2
  ((apply change).runOn registry).1 = .error (.invalidName "c=d".toList .reserved)
    ∧ ∃ before, StopsAt change.bindings before "c=d".toList .reserved
      ∧ (∀ other, after.get? other
        = ((Entries.ofPairs before).get? other).or (registry.get? other))
      ∧ ((∀ other, after.get? other = registry.get? other)
        ↔ ∀ other binding, (Entries.ofPairs before).get? other = some binding →
          registry.get? other = some binding)
  := by
  intro registry change after
  have rejected : ((apply change).runOn registry).1
      = .error (.invalidName "c=d".toList .reserved) := by decide +kernel
  use rejected
  apply keeps_bindings_iff_of_rejected rejected

/-- Several names of which the last one cannot be registered: the first one loses the binding that
it has, and the second one is new. -/
theorem changed_by_rejected :
  let registry : Registry Text := empty.run [.register "a".toList (.handler "x".toList)]
  let change : Change Text :=
    .registerUnder ["a".toList, "b".toList, "c d".toList] (.handler "y".toList)
  let after := ((apply change).runOn registry).2
  registry.Reachable
    ∧ ((apply change).runOn registry).1 = .error (.invalidName "c d".toList .reserved)
    ∧ after.get? "a".toList ≠ registry.get? "a".toList
    ∧ after.has "b".toList ≠ registry.has "b".toList
  := by
  intro registry change after
  constructor
  · apply reachable_run .empty
  · decide +kernel

end Registry

end Shortcode
