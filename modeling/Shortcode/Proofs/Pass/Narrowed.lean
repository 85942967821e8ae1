import Shortcode.Proofs.Pass.Expansion
import Shortcode.Proofs.Registry.Reachable
import Shortcode.Proofs.Tag.Narrowing

/-!
# When the candidates suffice

A pass looks for the registered names among the candidates of the text, and not for all
registered ones.  A candidate ends at a delimiter, but the name of a tag ends at any character
that names do not continue with: the tag `[a.b]` has the name `a`, and the candidate is `a.b`.
Nothing is lost exactly if the name of each tag stands somewhere in the text between an opening
bracket and a delimiter (`narrowing_complete_iff`).
-/

namespace Shortcode

variable {H : Type} {K : HookKind → Type} {σ : Type}

/-! ### The calls for given tags -/

/-- The calls are one for each tag that is not escaped, in order, of the handler that its name
is bound to. -/
inductive Registry.CallsFor (registry : Registry H) :
    List Occurrence → List (Invocation H K) → Prop where
  | none : CallsFor registry [] []
  | escaped {occurrence : Occurrence} {occurrences : List Occurrence}
    {calls : List (Invocation H K)} (escaped : occurrence.tag.isEscaped)
    (others : CallsFor registry occurrences calls) :
    CallsFor registry (occurrence :: occurrences) calls
  | called {occurrence : Occurrence} {occurrences : List Occurrence}
    {calls : List (Invocation H K)} {handler : H}
    (unescaped : occurrence.tag.isEscaped = false)
    (bound : registry.callable occurrence.tag.name = .ok handler)
    (others : CallsFor registry occurrences calls) :
    CallsFor registry (occurrence :: occurrences) (occurrence.handlerCall handler :: calls)

namespace Registry.CallsFor

variable {registry : Registry H} {occurrences : List Occurrence} {calls : List (Invocation H K)}

/-- Each tag that is not escaped has a call. -/
theorem exists_call (callsFor : registry.CallsFor occurrences calls) {occurrence : Occurrence}
    (inside : occurrence ∈ occurrences) (unescaped : occurrence.tag.isEscaped = false) :
  ∃ handler, occurrence.handlerCall handler ∈ calls
  := by
  induction callsFor with
  | none => contradiction
  | escaped escaped _ ih =>
    rcases List.mem_cons.mp inside with rfl | inside
    · rw [unescaped] at escaped
      contradiction
    · apply ih inside
  | @called _ _ _ handler _ _ _ ih =>
    rcases List.mem_cons.mp inside with rfl | inside
    · use handler
      apply List.mem_cons_self
    · obtain ⟨handler, called⟩ := ih inside
      use handler
      apply List.mem_cons_of_mem _ called

/-- Each call belongs to a tag. -/
theorem exists_occurrence (callsFor : registry.CallsFor occurrences calls) {call : Invocation H K}
    (inside : call ∈ calls) :
  ∃ occurrence ∈ occurrences, ∃ handler, call = occurrence.handlerCall handler
  := by
  induction callsFor with
  | none => contradiction
  | escaped _ _ ih =>
    obtain ⟨occurrence, found, same⟩ := ih inside
    exact ⟨occurrence, List.mem_cons_of_mem _ found, same⟩
  | @called occurrence _ _ handler _ _ _ ih =>
    rcases List.mem_cons.mp inside with rfl | inside
    · exact ⟨occurrence, List.mem_cons_self, handler, rfl⟩
    · obtain ⟨occurrence, found, same⟩ := ih inside
      exact ⟨occurrence, List.mem_cons_of_mem _ found, same⟩

end Registry.CallsFor

/-! ### Ordinary worlds -/

namespace Behaviour

/-- Every name is bound to a handler that can be called, no hook stands around handlers, and
handlers do not fail and keep the registry. -/
structure Ordinary (behaviour : Behaviour H K σ) (world : World H K σ) : Prop where
  bound : ∀ name ∈ world.registry.names, ∃ handler, world.registry.callable name = .ok handler
  noPreDispatch : world.config.preDispatch = none
  noPostDispatch : world.config.postDispatch = none
  returns : ∀ {name : Text} {handler : H}, world.registry.callable name = .ok handler →
    ∀ (attributes : Attributes) (content : Option Text) (other : World H K σ),
    other.registry = world.registry →
    ∃ result, ((behaviour.handle handler attributes content name).runOn other).1 = .ok result
  keeps : behaviour.KeepsRegistry world

/-- The calls that expanding the text makes. -/
def callsOf (behaviour : Behaviour H K σ) (text : Text) (world : World H K σ) :
    List (Invocation H K) :=
  ((behaviour.recording.expand text).runOn (world.withRecord [])).2.rest.2

theorem callsOf_of_traced {behaviour : Behaviour H K σ} {text : Text} {world after : World H K σ}
    {calls : List (Invocation H K)} {outcome : Except Fault Text}
    (traced : Action.Traced (behaviour.expand text) (behaviour.recording.expand text) world calls
      outcome after) :
  behaviour.callsOf text world = calls
  := by
  rw [callsOf, traced.record []]
  rfl

variable {behaviour : Behaviour H K σ} {world : World H K σ}

/-- In an ordinary world a tag is replaced without fail, and its handler is called unless it is
escaped. -/
theorem callsFor_replaces (ordinary : behaviour.Ordinary world) {occurrence : Occurrence}
    (named : occurrence.tag.name ∈ world.registry.names) {before after : World H K σ}
    {calls : List (Invocation H K)} {outcome : Except Fault Text}
    (kept : before.registry = world.registry)
    (replaces : Replaces behaviour world.config (fun _ => world.registry.callable) occurrence before
      calls outcome after) :
  (∃ text, outcome = .ok text)
    ∧ ∀ {occurrences : List Occurrence} {calls' : List (Invocation H K)},
      world.registry.CallsFor occurrences calls' →
      world.registry.CallsFor (occurrence :: occurrences) (calls ++ calls')
  := by
  cases replaces with
  | escaped escaped =>
    constructor
    · exact ⟨_, rfl⟩
    · intro _ _ others
      exact .escaped escaped others
  | uncallable _ unbound =>
    obtain ⟨handler, bound⟩ := ordinary.bound _ named
    rw [bound] at unbound
    contradiction
  | refused _ _ set =>
    rw [ordinary.noPreDispatch] at set
    contradiction
  | intercepted _ _ set =>
    rw [ordinary.noPreDispatch] at set
    contradiction
  | failed _ bound admits run =>
    have between := keeps_admits ordinary.keeps admits kept
    obtain ⟨result, returned⟩ := ordinary.returns bound occurrence.parsed occurrence.tag.content?
      _ between
    rw [run] at returned
    contradiction
  | handled unescaped bound admits =>
    cases admits with
    | passed set =>
      rw [ordinary.noPreDispatch] at set
      contradiction
    | unset =>
      constructor
      · exact ⟨_, rfl⟩
      · intro _ _ others
        exact .called unescaped bound others
  | finished _ _ _ _ set =>
    rw [ordinary.noPostDispatch] at set
    contradiction

/-- In an ordinary world a course calls the handlers of the tags that are not escaped. -/
theorem callsFor_course (ordinary : behaviour.Ordinary world) {occurrences : List Occurrence}
    (named : ∀ occurrence ∈ occurrences, occurrence.tag.name ∈ world.registry.names)
    {before after : World H K σ} {calls : List (Invocation H K)}
    {outcome : Except Fault (List Text)} (kept : before.registry = world.registry)
    (course : Course behaviour world.config (fun _ => world.registry.callable) occurrences before
      calls outcome after) :
  world.registry.CallsFor occurrences calls
  := by
  induction course with
  | done => exact .none
  | aborted first =>
    obtain ⟨⟨text, given⟩, -⟩ :=
      callsFor_replaces ordinary (named _ List.mem_cons_self) kept first
    contradiction
  | next first _ ih =>
    obtain ⟨-, called⟩ := callsFor_replaces ordinary (named _ List.mem_cons_self) kept first
    apply called
    apply ih
    · intro occurrence inside
      apply named occurrence (List.mem_cons_of_mem _ inside)
    · apply keeps_replaces ordinary.keeps first kept

/-- In an ordinary world a pass calls the handlers of the tags of the names that it looks for,
the escaped ones aside. -/
theorem callsFor_callsOf (ordinary : behaviour.Ordinary world) (text : Text) :
  world.registry.CallsFor (Tag.scan (world.registry.sought text) text)
    (behaviour.callsOf text world)
  := by
  by_cases busy : ∃ name, name ∈ world.registry.sought text
  · obtain ⟨calls, outcome, after, course, traced⟩ :=
      exists_course_expand ordinary.keeps (fun _ kept => by rw [kept]) rfl busy
    rw [callsOf_of_traced traced]
    apply callsFor_course ordinary Registry.mem_names_of_mem_scan rfl course
  · have idle : ∀ name, name ∉ world.registry.sought text := not_exists.mp busy
    rw [callsOf_of_traced (traced_expand_of_idle idle)]
    rw [Tag.scan_eq_nil_of_empty idle]
    exact .none

/-! ### What the candidates miss -/

/-- A registered name is a candidate exactly if it stands somewhere between an opening bracket
and a delimiter. -/
theorem mem_candidates_of_registered {registry : Registry H} (reachable : registry.Reachable)
    {text name : Text} (registered : name ∈ registry.names) :
  name ∈ candidates text ↔ NamedIn name text
  := by
  obtain ⟨nonempty, plain⟩ := Registry.plain_of_mem_names reachable registered
  rw [mem_candidates_iff]
  constructor
  · intro candidate
    apply candidate.2.2
  · intro named
    exact ⟨nonempty, plain, named⟩

/-- The names looked for are those of all tags, exactly if each of them is a candidate. -/
theorem scan_sought_eq_iff (registry : Registry H) {text : Text} :
  Tag.scan (registry.sought text) text = Tag.scan registry.names text
    ↔ ∀ occurrence ∈ Tag.scan registry.names text, occurrence.tag.name ∈ candidates text
  := by
  have same : registry.sought text
      = registry.names.filter fun name => decide (name ∈ candidates text) := rfl
  rw [same, Tag.scan_filter_eq_iff]
  simp

/-- A tag whose handler is called has a candidate for its name. -/
theorem mem_candidates_of_call (ordinary : behaviour.Ordinary world) {text : Text}
    {occurrence : Occurrence} {handler : H}
    (made : occurrence.handlerCall handler ∈ behaviour.callsOf text world) :
  occurrence.tag.name ∈ candidates text
  := by
  obtain ⟨other, found, handler', same⟩ :=
    (callsFor_callsOf ordinary text).exists_occurrence made
  -- The call belongs to some tag that is looked for, if not to the given one.
  have names : occurrence.tag.name = other.tag.name := by
    injection same
  rw [names]
  apply (NameSet.mem_inter.mp (Tag.name_mem_of_mem_scan found)).2

/-- The names of all tags are candidates, and the handlers of all tags are called in an
ordinary world, exactly if each of these names stands somewhere in the text between an opening
bracket and a delimiter.  For the handlers to be called, the names of the tags that are not
escaped must. -/
theorem narrowing_complete_iff (reachable : world.registry.Reachable)
    (ordinary : behaviour.Ordinary world) (text : Text) :
  let occurrences := Tag.scan world.registry.names text
  let calls := behaviour.callsOf text world
  ((∀ occurrence ∈ occurrences, occurrence.tag.name ∈ candidates text)
      ↔ ∀ occurrence ∈ occurrences, NamedIn occurrence.tag.name text)
    ∧ ((∀ occurrence ∈ occurrences, occurrence.tag.name ∈ candidates text)
        ∧ world.registry.CallsFor occurrences calls
      ↔ ∀ occurrence ∈ occurrences, NamedIn occurrence.tag.name text)
    ∧ (world.registry.CallsFor occurrences calls →
      ∀ occurrence ∈ occurrences, occurrence.tag.isEscaped = false →
        NamedIn occurrence.tag.name text)
  := by
  intro occurrences calls
  have candidate_iff : ∀ occurrence ∈ occurrences,
      (occurrence.tag.name ∈ candidates text ↔ NamedIn occurrence.tag.name text) := by
    intro occurrence inside
    apply mem_candidates_of_registered reachable (Tag.name_mem_of_mem_scan inside)
  constructor
  · apply forall₂_congr candidate_iff
  constructor
  · constructor
    · rintro ⟨present, -⟩ occurrence inside
      exact (candidate_iff occurrence inside).mp (present occurrence inside)
    · intro named
      have present : ∀ occurrence ∈ occurrences, occurrence.tag.name ∈ candidates text := by
        intro occurrence inside
        exact (candidate_iff occurrence inside).mpr (named occurrence inside)
      have called := callsFor_callsOf ordinary text
      rw [(scan_sought_eq_iff world.registry).mpr present] at called
      exact ⟨present, called⟩
  · intro complete occurrence inside unescaped
    obtain ⟨handler, made⟩ := complete.exists_call inside unescaped
    apply (candidate_iff occurrence inside).mp
    apply mem_candidates_of_call ordinary made

/-! ### One name -/

/-- Handlers are texts that give themselves and are counted; hooks change nothing. -/
def counting : Behaviour Text (fun _ => Unit) Nat where
  preDispatch _ _ _ _ := pure none
  postDispatch _ output _ _ _ := pure output
  stripFilter _ names _ := pure names.toList
  attributesFilter _ merged _ _ _ := pure merged
  handle handler _ _ _ := .of fun world =>
    (.ok (.text handler), { world with rest := world.rest + 1 })

/-- The world in which the name `a` alone is registered, and nothing has been counted. -/
def oneName : World Text (fun _ => Unit) Nat where
  registry := ((Registry.apply (.register "a".toList (.handler "X".toList))).runOn .empty).2
  rest := 0

theorem reachable_oneName :
  oneName.registry.Reachable
  := .change .empty _

theorem ordinary_counting :
  counting.Ordinary oneName
  := by
  constructor
  · intro name inside
    have keys : oneName.registry.entries.keys = ["a".toList] := by decide +kernel
    rw [Registry.mem_names, keys, List.mem_singleton] at inside
    use "X".toList
    rw [inside]
    decide +kernel
  · rfl
  · rfl
  · intro _ handler _ _ _ _ _
    use .text handler
    rfl
  · constructor
    · intro _ _ _ _ _ _ _ _ kept
      apply kept
    · intro _ _ _ _ _ _ kept
      apply kept
    · intro _ _ _ _ _ _ _ kept
      apply kept

/-- Tags with a delimiter behind the name, and one whose name is a candidate elsewhere. -/
theorem narrowing_complete_iff_of_delimited :
  let text := "[a x=1][a.b][[a/]]".toList
  let occurrences := Tag.scan oneName.registry.names text
  let calls := counting.callsOf text oneName
  oneName.registry.Reachable
    ∧ counting.Ordinary oneName
    ∧ ((∀ occurrence ∈ occurrences, occurrence.tag.name ∈ candidates text)
      ↔ ∀ occurrence ∈ occurrences, NamedIn occurrence.tag.name text)
    ∧ ((∀ occurrence ∈ occurrences, occurrence.tag.name ∈ candidates text)
        ∧ oneName.registry.CallsFor occurrences calls
      ↔ ∀ occurrence ∈ occurrences, NamedIn occurrence.tag.name text)
    ∧ (oneName.registry.CallsFor occurrences calls →
      ∀ occurrence ∈ occurrences, occurrence.tag.isEscaped = false →
        NamedIn occurrence.tag.name text)
  := by
  intro text occurrences calls
  use reachable_oneName, ordinary_counting
  apply narrowing_complete_iff reachable_oneName ordinary_counting text

/-- A tag whose name no candidate is: its handler is not called. -/
theorem narrowing_incomplete_of_dot :
  let text := "[a.b]".toList
  oneName.registry.Reachable
    ∧ counting.Ordinary oneName
    ∧ (∃ occurrence ∈ Tag.scan oneName.registry.names text,
      occurrence.tag.isEscaped = false ∧ occurrence.tag.name ∉ candidates text)
    ∧ counting.callsOf text oneName = []
    ∧ ¬ oneName.registry.CallsFor (Tag.scan oneName.registry.names text)
      (counting.callsOf text oneName)
  := by
  intro text
  have found : Tag.scan oneName.registry.names text
      = [⟨⟨false, "a".toList, ".b".toList, .bare, false⟩, 0⟩] := by
    decide +kernel
  have missed : "a".toList ∉ candidates text := by decide +kernel
  have uncalled : counting.callsOf text oneName = [] := by
    have called := callsFor_callsOf ordinary_counting text
    have none : Tag.scan (oneName.registry.sought text) text = [] := by decide +kernel
    rw [none] at called
    generalize counting.callsOf text oneName = calls at called
    cases called
    rfl
  use reachable_oneName, ordinary_counting
  rw [found, uncalled]
  constructor
  · use ⟨⟨false, "a".toList, ".b".toList, .bare, false⟩, 0⟩
    exact ⟨List.mem_singleton_self _, rfl, missed⟩
  · use rfl
    intro complete
    cases complete with
    | escaped escaped => contradiction

end Behaviour

end Shortcode
