import Shortcode.Proofs.Pass.Narrowed

/-!
# The handlers that are called

Without hooks around handlers, replacing a tag comes to at most one call (`calls_of_replaces`).
So every call of a pass belongs to one of the tags that the pass looks for
(`exists_occurrence_of_mem_callsOf`), and if these tags are known, so are the calls: one for
each tag in an ordinary world (`forall₂_callsOf`), and the one of a tag that stands alone,
whatever its handler does (`callsOf_eq_singleton`).
-/

namespace Shortcode

variable {H : Type} {K : HookKind → Type} {σ : Type}

/-- No hook stands around handlers. -/
structure Config.Unhooked (config : Config K) : Prop where
  preDispatch : config.preDispatch = none
  postDispatch : config.postDispatch = none

/-- The call is the one for the tag: of the handler that its name is bound to. -/
def Registry.Calls (registry : Registry H) (tag : Tag) (call : Invocation H K) : Prop :=
  ∃ handler, registry.callable tag.name = .ok handler
    ∧ call = .handler handler (.parse tag.attributes) tag.content? tag.name

/-- If no tag is escaped, each of them has its call. -/
theorem Registry.CallsFor.forall₂ {registry : Registry H} {occurrences : List Occurrence}
    {calls : List (Invocation H K)} (callsFor : registry.CallsFor occurrences calls)
    (unescaped : ∀ occurrence ∈ occurrences, occurrence.tag.isEscaped = false) :
  List.Forall₂ registry.Calls (occurrences.map Occurrence.tag) calls
  := by
  induction callsFor with
  | none => exact .nil
  | escaped escaped _ _ =>
    rw [unescaped _ List.mem_cons_self] at escaped
    contradiction
  | @called _ _ _ handler _ bound _ ih =>
    apply List.Forall₂.cons
    · exact ⟨handler, bound, rfl⟩
    · apply ih
      intro occurrence inside
      apply unescaped occurrence (List.mem_cons_of_mem _ inside)

/-- A registered name is looked for exactly if it stands somewhere between an opening bracket
and a delimiter. -/
theorem Registry.mem_sought_iff {registry : Registry H} (reachable : registry.Reachable)
    {text name : Text} :
  name ∈ registry.sought text ↔ name ∈ registry.names ∧ NamedIn name text
  := by
  rw [sought, namesIn, NameSet.mem_inter]
  constructor
  · rintro ⟨registered, candidate⟩
    exact ⟨registered, (Behaviour.mem_candidates_of_registered reachable registered).mp candidate⟩
  · rintro ⟨registered, named⟩
    exact ⟨registered, (Behaviour.mem_candidates_of_registered reachable registered).mpr named⟩

namespace Behaviour

variable {behaviour : Behaviour H K σ} {config : Config K}
  {callable : World H K σ → Text → Except Fault H} {world after : World H K σ}

/-- Without hooks, nothing is called before the handler. -/
theorem eq_of_admits (unhooked : config.Unhooked) {occurrence : Occurrence}
    {calls : List (Invocation H K)}
    (admits : Admits behaviour config occurrence world calls after) :
  calls = [] ∧ after = world
  := by
  cases admits with
  | unset => exact ⟨rfl, rfl⟩
  | passed set =>
    rw [unhooked.preDispatch] at set
    contradiction

/-- Without hooks, an escaped tag stands for itself, a tag whose name is bound to no handler is a
fault, and any other tag is replaced by the output of its handler. -/
theorem cases_of_replaces (unhooked : config.Unhooked) {occurrence : Occurrence}
    {calls : List (Invocation H K)} {outcome : Except Fault Text}
    (replaces : Replaces behaviour config callable occurrence world calls outcome after) :
  (occurrence.tag.isEscaped ∧ calls = [] ∧ outcome = .ok occurrence.tag.unescaped ∧ after = world)
    ∨ (occurrence.tag.isEscaped = false ∧ calls = []
      ∧ ∃ fault, callable world occurrence.tag.name = .error fault ∧ outcome = .error fault)
    ∨ (occurrence.tag.isEscaped = false
      ∧ ∃ handler given, callable world occurrence.tag.name = .ok handler
        ∧ calls = [occurrence.handlerCall handler]
        ∧ (behaviour.handle handler occurrence.parsed occurrence.tag.content?
          occurrence.tag.name).runOn world = (given, after)
        ∧ outcome = given.map occurrence.output)
  := by
  cases replaces with
  | escaped escaped => exact .inl ⟨escaped, rfl, rfl, rfl⟩
  | uncallable unescaped unbound => exact .inr (.inl ⟨unescaped, rfl, _, unbound, rfl⟩)
  | refused _ _ set =>
    rw [unhooked.preDispatch] at set
    contradiction
  | intercepted _ _ set =>
    rw [unhooked.preDispatch] at set
    contradiction
  | failed unescaped bound admits run =>
    obtain ⟨rfl, rfl⟩ := eq_of_admits unhooked admits
    exact .inr (.inr ⟨unescaped, _, _, bound, rfl, run, rfl⟩)
  | handled unescaped bound admits run =>
    obtain ⟨rfl, rfl⟩ := eq_of_admits unhooked admits
    exact .inr (.inr ⟨unescaped, _, _, bound, rfl, run, rfl⟩)
  | finished _ _ _ _ set =>
    rw [unhooked.postDispatch] at set
    contradiction

/-- Without hooks, replacing a tag calls nothing, if the tag is escaped or its name is bound to
no handler, and otherwise the handler alone. -/
theorem calls_of_replaces (unhooked : config.Unhooked) {occurrence : Occurrence}
    {calls : List (Invocation H K)} {outcome : Except Fault Text}
    (replaces : Replaces behaviour config callable occurrence world calls outcome after) :
  (occurrence.tag.isEscaped ∧ calls = [])
    ∨ ((∃ fault, callable world occurrence.tag.name = .error fault) ∧ calls = [])
    ∨ ∃ handler, callable world occurrence.tag.name = .ok handler
      ∧ calls = [occurrence.handlerCall handler]
  := by
  rcases cases_of_replaces unhooked replaces with
    ⟨escaped, none, -⟩ | ⟨-, none, fault, unbound, -⟩ | ⟨-, handler, -, bound, called, -⟩
  · exact .inl ⟨escaped, none⟩
  · exact .inr (.inl ⟨⟨fault, unbound⟩, none⟩)
  · exact .inr (.inr ⟨handler, bound, called⟩)

/-- Without hooks, what is called to replace a tag is its handler. -/
theorem exists_handler_of_mem_replaces (unhooked : config.Unhooked) {occurrence : Occurrence}
    {calls : List (Invocation H K)} {outcome : Except Fault Text}
    (replaces : Replaces behaviour config callable occurrence world calls outcome after) :
  ∀ call ∈ calls, ∃ handler, call = occurrence.handlerCall handler
  := by
  intro call made
  rcases calls_of_replaces unhooked replaces with ⟨-, rfl⟩ | ⟨-, rfl⟩ | ⟨handler, -, rfl⟩
  · contradiction
  · contradiction
  · exact ⟨handler, List.mem_singleton.mp made⟩

/-- Without hooks, a tag that is not escaped is replaced by what its handler gives, in one call. -/
theorem handled_of_replaces (unhooked : config.Unhooked) {occurrence : Occurrence}
    {handler : H} {calls : List (Invocation H K)} {outcome : Except Fault Text}
    (replaces : Replaces behaviour config callable occurrence world calls outcome after)
    (unescaped : occurrence.tag.isEscaped = false)
    (bound : callable world occurrence.tag.name = .ok handler) :
  calls = [occurrence.handlerCall handler]
    ∧ ∃ given, (behaviour.handle handler occurrence.parsed occurrence.tag.content?
        occurrence.tag.name).runOn world = (given, after)
      ∧ outcome = given.map occurrence.output
  := by
  rcases cases_of_replaces unhooked replaces with
    ⟨escaped, -⟩ | ⟨-, -, fault, unbound, -⟩ | ⟨-, handler', given, bound', called, run, outcome⟩
  · rw [unescaped] at escaped
    contradiction
  · rw [bound] at unbound
    contradiction
  · rw [bound] at bound'
    obtain rfl := Except.ok.inj bound'
    exact ⟨called, given, run, outcome⟩

/-- Without hooks, each call of a course is one of a handler for one of the tags. -/
theorem exists_occurrence_of_mem_course (unhooked : config.Unhooked) {occurrences : List Occurrence}
    {calls : List (Invocation H K)} {outcome : Except Fault (List Text)}
    (course : Course behaviour config callable occurrences world calls outcome after) :
  ∀ call ∈ calls, ∃ occurrence ∈ occurrences, ∃ handler, call = occurrence.handlerCall handler
  := by
  induction course with
  | done =>
    intro call made
    contradiction
  | aborted first =>
    intro call made
    exact ⟨_, List.mem_cons_self, exists_handler_of_mem_replaces unhooked first call made⟩
  | next first _ ih =>
    intro call made
    rcases List.mem_append.mp made with made | made
    · exact ⟨_, List.mem_cons_self, exists_handler_of_mem_replaces unhooked first call made⟩
    · obtain ⟨occurrence, inside, called⟩ := ih call made
      exact ⟨occurrence, List.mem_cons_of_mem _ inside, called⟩

/-- A pass whose handlers may do anything takes a course in which handlers are looked up when
their turn comes. -/
theorem exists_course_callsOf {text : Text}
    (busy : ∃ name, name ∈ world.registry.sought text) :
  ∃ outcome after,
    Course behaviour world.config (fun current => current.registry.callable)
      (Tag.scan (world.registry.sought text) text) world (behaviour.callsOf text world) outcome
      after
  := by
  obtain ⟨calls, outcome, after, course, traced⟩ :=
    @exists_live_course_expand H K σ behaviour text world busy
  use outcome, after
  rwa [callsOf_of_traced traced]

/-- Without hooks, each call of a pass is one of a handler for a tag that the pass looks for. -/
theorem exists_occurrence_of_mem_callsOf (unhooked : world.config.Unhooked) {text : Text}
    {call : Invocation H K} (made : call ∈ behaviour.callsOf text world) :
  ∃ occurrence ∈ Tag.scan (world.registry.sought text) text, ∃ handler,
    call = occurrence.handlerCall handler
  := by
  by_cases busy : ∃ name, name ∈ world.registry.sought text
  · obtain ⟨outcome, after, course⟩ := @exists_course_callsOf H K σ behaviour world text busy
    apply exists_occurrence_of_mem_course unhooked course call made
  · rw [callsOf_of_traced (traced_expand_of_idle (not_exists.mp busy))] at made
    contradiction

/-- Without hooks, a tag that is the only one of its text has its handler called once. -/
theorem callsOf_eq_singleton (unhooked : world.config.Unhooked) {text : Text} {tag : Tag}
    {handler : H} (alone : Text.items (Tag.read (world.registry.sought text).toList) text = [tag])
    (unescaped : tag.isEscaped = false) (bound : world.registry.callable tag.name = .ok handler) :
  behaviour.callsOf text world
    = [.handler handler (.parse tag.attributes) tag.content? tag.name]
  := by
  rw [← Tag.map_tag_scan] at alone
  obtain ⟨occurrence, found, rfl⟩ := List.map_eq_singleton_iff.mp alone
  have sought : occurrence.tag.name ∈ world.registry.sought text := by
    apply Tag.name_mem_of_mem_scan
    rw [found]
    apply List.mem_singleton_self
  obtain ⟨outcome, after, course⟩ :=
    @exists_course_callsOf H K σ behaviour world text ⟨_, sought⟩
  rw [found] at course
  obtain ⟨given, replaces, -⟩ := exists_replaces_of_course course
  apply (handled_of_replaces unhooked replaces unescaped bound).1

/-- In an ordinary world, the calls of a pass whose tags are not escaped are those for the
tags, in order. -/
theorem forall₂_callsOf (ordinary : behaviour.Ordinary world) {text : Text} {tags : List Tag}
    (found : Text.items (Tag.read (world.registry.sought text).toList) text = tags)
    (unescaped : ∀ tag ∈ tags, tag.isEscaped = false) :
  List.Forall₂ world.registry.Calls tags (behaviour.callsOf text world)
  := by
  rw [← Tag.map_tag_scan] at found
  subst found
  apply (callsFor_callsOf ordinary text).forall₂
  intro occurrence inside
  apply unescaped _ (List.mem_map_of_mem inside)

/-! ### Names that are their own handlers -/

/-- The world in which each of the names is registered with itself as its handler. -/
def selfNamed (names : List Text) : World Text (fun _ => Unit) Nat where
  registry :=
    ((Registry.apply (.registerAll (names.map fun name => (name, .handler name)))).runOn .empty).2
  rest := 0

theorem reachable_selfNamed (names : List Text) :
  (selfNamed names).registry.Reachable
  := .change .empty _

theorem ordinary_selfNamed {names : List Text}
    (bound : ∀ name ∈ (selfNamed names).registry.names.toList,
      (selfNamed names).registry.callable name = .ok name) :
  counting.Ordinary (selfNamed names)
  := by
  constructor
  · intro name inside
    exact ⟨name, bound name inside⟩
  · rfl
  · rfl
  · intro _ handler _ _ _ _ _
    use .text handler
    rfl
  · constructor
    · intro _ _ _ _ _ _ _ _ kept
      apply kept
    · intro _ _ _ _ _ _ kept
      apply kept
    · intro _ _ _ _ _ _ _ kept
      apply kept

end Behaviour

end Shortcode
