import Mathlib.Tactic.Common
import Shortcode.Proofs.Action
import Shortcode.Proofs.Pass.Calls
import Shortcode.Proofs.Tag.Gaps

/-!
# The course of a pass

What a pass does is laid down without regard to how it is carried out: `Replaces` says how one
tag is replaced, by which calls and with what outcome, and `Course` how one tag after the other
is, up to the first failure.  `exists_replaces` and `exists_course` say that dispatch does what
is laid down, and that the calls are those that are recorded.
-/

namespace Shortcode

variable {H : Type} {K : HookKind → Type} {σ : Type}

/-- What holds of all partners holds of the members of the second list. -/
theorem forall_mem_of_forall₂ {α β : Type} {as : List α} {bs : List β} {given : α → β → Prop}
    {P : β → Prop} (paired : List.Forall₂ given as bs) (holds : ∀ a b, given a b → P b) :
  ∀ b ∈ bs, P b
  := by
  induction paired with
  | nil =>
    intro b inside
    contradiction
  | cons here _ ih =>
    rw [List.forall_mem_cons]
    exact ⟨holds _ _ here, ih⟩

namespace Occurrence

/-- The attributes that a handler is given for the tag. -/
def parsed (occurrence : Occurrence) : Attributes := .parse occurrence.tag.attributes

/-- The call of the hook before dispatch. -/
def preDispatchCall (occurrence : Occurrence) (hook : K .preDispatch) : Invocation H K :=
  .preDispatch hook occurrence.tag.name occurrence.parsed occurrence

/-- The call of a handler. -/
def handlerCall (occurrence : Occurrence) (handler : H) : Invocation H K :=
  .handler handler occurrence.parsed occurrence.tag.content? occurrence.tag.name

/-- The call of the hook behind dispatch. -/
def postDispatchCall (occurrence : Occurrence) (hook : K .postDispatch) (output : Text) :
    Invocation H K :=
  .postDispatch hook output occurrence.tag.name occurrence.parsed occurrence

/-- The output of a handler between the additional brackets of the tag. -/
def output (occurrence : Occurrence) (result : Datum) : Text :=
  occurrence.tag.opener ++ result.inserted ++ occurrence.tag.closer

end Occurrence

namespace Behaviour

variable (behaviour : Behaviour H K σ) (config : Config K)
  (callable : World H K σ → Text → Except Fault H)

/-- The hook before dispatch, if one is set, does not replace the tag. -/
inductive Admits (occurrence : Occurrence) :
    World H K σ → List (Invocation H K) → World H K σ → Prop where
  | unset {world : World H K σ} (unset : config.preDispatch = none) :
    Admits occurrence world [] world
  | passed {world after : World H K σ} {hook : K .preDispatch}
    (set : config.preDispatch = some hook)
    (run : (behaviour.preDispatch hook occurrence.tag.name occurrence.parsed occurrence).runOn world
      = (.ok none, after)) :
    Admits occurrence world [occurrence.preDispatchCall hook] after

/-- How a tag is replaced: the world before, the calls, the outcome, and the world behind;
`callable` looks the handler of a name up. -/
inductive Replaces (occurrence : Occurrence) :
    World H K σ → List (Invocation H K) → Except Fault Text → World H K σ → Prop where
  /-- An escaped tag is replaced by itself less its outer characters. -/
  | escaped {world : World H K σ} (escaped : occurrence.tag.isEscaped) :
    Replaces occurrence world [] (.ok (occurrence.text.drop 1).dropLast) world
  /-- The name is bound to nothing that can be called. -/
  | uncallable {world : World H K σ} {fault : Fault}
    (unescaped : occurrence.tag.isEscaped = false)
    (unbound : callable world occurrence.tag.name = .error fault) :
    Replaces occurrence world [] (.error fault) world
  /-- The hook before dispatch fails. -/
  | refused {world after : World H K σ} {handler : H} {hook : K .preDispatch} {fault : Fault}
    (unescaped : occurrence.tag.isEscaped = false)
    (bound : callable world occurrence.tag.name = .ok handler)
    (set : config.preDispatch = some hook)
    (run : (behaviour.preDispatch hook occurrence.tag.name occurrence.parsed occurrence).runOn world
      = (.error fault, after)) :
    Replaces occurrence world [occurrence.preDispatchCall hook] (.error fault) after
  /-- The hook before dispatch replaces the tag. -/
  | intercepted {world after : World H K σ} {handler : H} {hook : K .preDispatch} {text : Text}
    (unescaped : occurrence.tag.isEscaped = false)
    (bound : callable world occurrence.tag.name = .ok handler)
    (set : config.preDispatch = some hook)
    (run : (behaviour.preDispatch hook occurrence.tag.name occurrence.parsed occurrence).runOn world
      = (.ok (some text), after)) :
    Replaces occurrence world [occurrence.preDispatchCall hook] (.ok text) after
  /-- The handler fails. -/
  | failed {world between after : World H K σ} {calls : List (Invocation H K)} {handler : H}
    {fault : Fault} (unescaped : occurrence.tag.isEscaped = false)
    (bound : callable world occurrence.tag.name = .ok handler)
    (admits : Admits behaviour config occurrence world calls between)
    (run : (behaviour.handle handler occurrence.parsed occurrence.tag.content?
      occurrence.tag.name).runOn between = (.error fault, after)) :
    Replaces occurrence world (calls ++ [occurrence.handlerCall handler]) (.error fault) after
  /-- The handler gives the output, between the additional brackets. -/
  | handled {world between after : World H K σ} {calls : List (Invocation H K)} {handler : H}
    {result : Datum} (unescaped : occurrence.tag.isEscaped = false)
    (bound : callable world occurrence.tag.name = .ok handler)
    (admits : Admits behaviour config occurrence world calls between)
    (run : (behaviour.handle handler occurrence.parsed occurrence.tag.content?
      occurrence.tag.name).runOn between = (.ok result, after))
    (unset : config.postDispatch = none) :
    Replaces occurrence world (calls ++ [occurrence.handlerCall handler])
      (.ok (occurrence.output result)) after
  /-- The hook behind dispatch has the last word, whether it fails or not. -/
  | finished {world between behind after : World H K σ} {calls : List (Invocation H K)}
    {handler : H} {hook : K .postDispatch} {result : Datum} {outcome : Except Fault Text}
    (unescaped : occurrence.tag.isEscaped = false)
    (bound : callable world occurrence.tag.name = .ok handler)
    (admits : Admits behaviour config occurrence world calls between)
    (run : (behaviour.handle handler occurrence.parsed occurrence.tag.content?
      occurrence.tag.name).runOn between = (.ok result, behind))
    (set : config.postDispatch = some hook)
    (last : (behaviour.postDispatch hook (occurrence.output result) occurrence.tag.name
      occurrence.parsed occurrence).runOn behind = (outcome, after)) :
    Replaces occurrence world
      (calls ++ [occurrence.handlerCall handler,
        occurrence.postDispatchCall hook (occurrence.output result)])
      outcome after

/-- How one tag after the other is replaced, up to the first failure. -/
inductive Course :
    List Occurrence → World H K σ → List (Invocation H K) → Except Fault (List Text) →
      World H K σ → Prop where
  | done {world : World H K σ} : Course [] world [] (.ok []) world
  | aborted {occurrence : Occurrence} {occurrences : List Occurrence} {world after : World H K σ}
    {calls : List (Invocation H K)} {fault : Fault}
    (first : Replaces behaviour config callable occurrence world calls (.error fault) after) :
    Course (occurrence :: occurrences) world calls (.error fault) after
  | next {occurrence : Occurrence} {occurrences : List Occurrence}
    {world between after : World H K σ} {calls calls' : List (Invocation H K)} {text : Text}
    {outcome : Except Fault (List Text)}
    (first : Replaces behaviour config callable occurrence world calls (.ok text) between)
    (others : Course occurrences between calls' outcome after) :
    Course (occurrence :: occurrences) world (calls ++ calls') (outcome.map (text :: ·)) after

variable {behaviour config callable}

/-- A course that ends well has given one text for each tag. -/
theorem length_of_course {occurrences : List Occurrence} {world after : World H K σ}
    {calls : List (Invocation H K)} {outcome : Except Fault (List Text)}
    (course : Course behaviour config callable occurrences world calls outcome after) :
  ∀ texts, outcome = .ok texts → texts.length = occurrences.length
  := by
  induction course with
  | done =>
    rintro texts ⟨⟩
    rfl
  | aborted => rintro texts ⟨⟩
  | @next _ _ _ _ _ _ _ _ outcome _ _ ih =>
    intro texts given
    cases outcome with
    | error => contradiction
    | ok others =>
      obtain rfl := Except.ok.inj given
      rw [List.length_cons, List.length_cons, ih others rfl]

/-- A course through one tag replaces that tag. -/
theorem exists_replaces_of_course {occurrence : Occurrence} {world after : World H K σ}
    {calls : List (Invocation H K)} {outcome : Except Fault (List Text)}
    (course : Course behaviour config callable [occurrence] world calls outcome after) :
  ∃ given, Replaces behaviour config callable occurrence world calls given after
    ∧ outcome = given.map ([·])
  := by
  cases course with
  | @aborted _ _ _ _ _ fault first =>
    use .error fault, first
    rfl
  | @next _ _ _ _ _ _ _ text _ first others =>
    cases others
    rw [List.append_nil]
    use .ok text, first
    rfl

/-- An escaped tag stands for itself. -/
theorem eq_of_replaces_of_escaped {occurrence : Occurrence} {world after : World H K σ}
    {calls : List (Invocation H K)} {outcome : Except Fault Text}
    (escaped : occurrence.tag.isEscaped)
    (replaces : Replaces behaviour config callable occurrence world calls outcome after) :
  calls = [] ∧ outcome = .ok (occurrence.text.drop 1).dropLast ∧ after = world
  := by
  cases replaces <;> simp_all

/-- Escaped tags stand for themselves, and nothing is called. -/
theorem eq_of_course_of_escaped {occurrences : List Occurrence} {world after : World H K σ}
    {calls : List (Invocation H K)} {outcome : Except Fault (List Text)}
    (escaped : ∀ occurrence ∈ occurrences, occurrence.tag.isEscaped)
    (course : Course behaviour config callable occurrences world calls outcome after) :
  calls = [] ∧ outcome = .ok (occurrences.map (Tag.unescaped ∘ Occurrence.tag)) ∧ after = world
  := by
  induction course with
  | done => exact ⟨rfl, rfl, rfl⟩
  | aborted first =>
    obtain ⟨-, given, -⟩ := eq_of_replaces_of_escaped (escaped _ List.mem_cons_self) first
    contradiction
  | next first _ ih =>
    rw [List.forall_mem_cons] at escaped
    obtain ⟨rfl, given, rfl⟩ := eq_of_replaces_of_escaped escaped.1 first
    obtain rfl := Except.ok.inj given
    obtain ⟨rfl, rfl, rfl⟩ := ih escaped.2
    exact ⟨rfl, rfl, rfl⟩

/-- If each of the tags is replaced without fault, then a course through them gives a text for each
tag that is right for it. -/
theorem forall₂_of_course {Q : World H K σ → Prop} {right : Occurrence → Text → Prop}
    {occurrences : List Occurrence} {world after : World H K σ} {calls : List (Invocation H K)}
    {outcome : Except Fault (List Text)}
    (step : ∀ occurrence ∈ occurrences, ∀ {before after calls outcome}, Q before →
      Replaces behaviour config callable occurrence before calls outcome after →
      ∃ text, outcome = .ok text ∧ right occurrence text ∧ Q after)
    (holds : Q world)
    (course : Course behaviour config callable occurrences world calls outcome after) :
  ∃ texts, outcome = .ok texts ∧ List.Forall₂ right occurrences texts ∧ Q after
  := by
  induction course with
  | done => exact ⟨[], rfl, .nil, holds⟩
  | aborted first =>
    obtain ⟨text, given, -⟩ := step _ List.mem_cons_self holds first
    contradiction
  | next first _ ih =>
    rw [List.forall_mem_cons] at step
    obtain ⟨text, given, here, holds⟩ := step.1 holds first
    obtain rfl := Except.ok.inj given
    obtain ⟨texts, rfl, others, holds⟩ := ih step.2 holds
    exact ⟨_ :: texts, rfl, .cons here others, holds⟩

/-! ### The stages of dispatch -/

variable (behaviour config)

/-- What the hook before dispatch replaces a tag by, if it does. -/
def intercept (occurrence : Occurrence) : Action (World H K σ) (Option Text) :=
  match config.preDispatch with
  | some hook => behaviour.preDispatch hook occurrence.tag.name occurrence.parsed occurrence
  | none => pure none

/-- The output of the handler, through the hook behind dispatch. -/
def deliver (occurrence : Occurrence) (handler : H) : Action (World H K σ) Text :=
  behaviour.handle handler occurrence.parsed occurrence.tag.content? occurrence.tag.name
    >>= fun result =>
      match config.postDispatch with
      | some hook =>
        behaviour.postDispatch hook (occurrence.output result) occurrence.tag.name
          occurrence.parsed occurrence
      | none => pure (occurrence.output result)

/-- What takes the place of an unescaped tag, given what its name is bound to. -/
def replaceBy (occurrence : Occurrence) (bound : Except Fault H) : Action (World H K σ) Text :=
  Action.lift bound >>= fun handler =>
    behaviour.intercept config occurrence >>= fun replacement =>
      match replacement with
      | some text => pure text
      | none => behaviour.deliver config occurrence handler

theorem dispatch_of_escaped {occurrence : Occurrence} (escaped : occurrence.tag.isEscaped) :
  behaviour.dispatch config occurrence = pure (occurrence.text.drop 1).dropLast
  := by
  rw [dispatch, if_pos escaped]
  rfl

theorem dispatch_of_unescaped {occurrence : Occurrence}
    (unescaped : occurrence.tag.isEscaped = false) :
  behaviour.dispatch config occurrence
    = get >>= fun world =>
      behaviour.replaceBy config occurrence (world.registry.callable occurrence.tag.name)
  := by
  rw [dispatch, if_neg (by simp [unescaped])]
  unfold replaceBy intercept
  cases config.preDispatch with
  | none => rfl
  | some hook => rfl

variable {behaviour config}

/-- The hook before dispatch leaves the tag alone, replaces it, or fails; each way with the
calls that are recorded. -/
theorem exists_intercept (occurrence : Occurrence) (world : World H K σ) :
  ∃ calls outcome after,
    Action.Traced (behaviour.intercept config occurrence)
        (behaviour.recording.intercept config occurrence) world calls outcome after
      ∧ (outcome = .ok none → Admits behaviour config occurrence world calls after)
      ∧ (outcome ≠ .ok none → ∃ hook, config.preDispatch = some hook
        ∧ calls = [occurrence.preDispatchCall hook]
        ∧ (behaviour.preDispatch hook occurrence.tag.name occurrence.parsed occurrence).runOn world
          = (outcome, after))
  := by
  unfold intercept
  cases set : config.preDispatch with
  | none =>
    use [], .ok none, world
    constructor
    · apply Action.traced_pure none world
    · constructor
      · intro _
        exact .unset set
      · intro other
        contradiction
  | some hook =>
    cases run : (behaviour.preDispatch hook occurrence.tag.name occurrence.parsed
      occurrence).runOn world with
    | mk outcome after =>
      use [occurrence.preDispatchCall hook], outcome, after
      constructor
      · apply Action.traced_recorded _ run
      · constructor
        · rintro rfl
          exact .passed set run
        · intro _
          use hook

/-- A handler that is called fails or gives the output, which goes through the hook behind
dispatch; each way with the calls that are recorded. -/
theorem exists_deliver {occurrence : Occurrence} {world between : World H K σ}
    {calls : List (Invocation H K)} {handler : H}
    (unescaped : occurrence.tag.isEscaped = false)
    (bound : callable world occurrence.tag.name = .ok handler)
    (admits : Admits behaviour config occurrence world calls between) :
  ∃ calls' outcome after,
    Replaces behaviour config callable occurrence world (calls ++ calls') outcome after
      ∧ Action.Traced (behaviour.deliver config occurrence handler)
        (behaviour.recording.deliver config occurrence handler) between calls' outcome after
  := by
  cases run : (behaviour.handle handler occurrence.parsed occurrence.tag.content?
    occurrence.tag.name).runOn between with
  | mk given behind =>
    have handled := Action.traced_recorded (occurrence.handlerCall handler) run
    cases given with
    | error fault =>
      use [occurrence.handlerCall handler], .error fault, behind
      constructor
      · exact .failed unescaped bound admits run
      · apply Action.traced_bind_of_error handled
    | ok result =>
      cases set : config.postDispatch with
      | none =>
        use [occurrence.handlerCall handler] ++ [], .ok (occurrence.output result), behind
        constructor
        · exact .handled unescaped bound admits run set
        · apply Action.traced_bind handled
          simp only [set]
          apply Action.traced_pure _ behind
      | some hook =>
        cases last : (behaviour.postDispatch hook (occurrence.output result) occurrence.tag.name
          occurrence.parsed occurrence).runOn behind with
        | mk outcome after =>
          use [occurrence.handlerCall handler]
            ++ [occurrence.postDispatchCall hook (occurrence.output result)], outcome, after
          constructor
          · exact .finished unescaped bound admits run set last
          · apply Action.traced_bind handled
            simp only [set]
            apply Action.traced_recorded _ last

/-- An unescaped tag is replaced as laid down, given what its name is bound to. -/
theorem exists_replaceBy {occurrence : Occurrence}
    (unescaped : occurrence.tag.isEscaped = false) (world : World H K σ) :
  ∃ calls outcome after,
    Replaces behaviour config callable occurrence world calls outcome after
      ∧ Action.Traced
        (behaviour.replaceBy config occurrence (callable world occurrence.tag.name))
        (behaviour.recording.replaceBy config occurrence (callable world occurrence.tag.name))
        world calls outcome after
  := by
  cases bound : callable world occurrence.tag.name with
  | error fault =>
    use [], .error fault, world
    constructor
    · exact .uncallable unescaped bound
    · apply Action.traced_bind_of_error (Action.traced_lift _ world)
  | ok handler =>
    have looked := Action.traced_lift (.ok handler) world
    obtain ⟨calls, given, between, intercepted, admits, called⟩ :=
      @exists_intercept H K σ behaviour config occurrence world
    rcases given with fault | _ | text
    · obtain ⟨hook, set, rfl, run⟩ := called (by simp)
      use [] ++ [occurrence.preDispatchCall hook], .error fault, between
      constructor
      · exact .refused unescaped bound set run
      · apply Action.traced_bind looked
        apply Action.traced_bind_of_error intercepted
    · obtain ⟨calls', outcome, after, replaces, delivered⟩ :=
        exists_deliver unescaped bound (admits rfl)
      use [] ++ (calls ++ calls'), outcome, after
      constructor
      · apply replaces
      · apply Action.traced_bind looked
        apply Action.traced_bind intercepted delivered
    · obtain ⟨hook, set, rfl, run⟩ := called (by simp)
      use [] ++ ([occurrence.preDispatchCall hook] ++ []), .ok text, between
      constructor
      · exact .intercepted unescaped bound set run
      · apply Action.traced_bind looked
        apply Action.traced_bind intercepted (Action.traced_pure text between)

/-- Dispatch replaces a tag as laid down, with the calls that are recorded. -/
theorem exists_replaces {occurrence : Occurrence} {world : World H K σ}
    (current : callable world = world.registry.callable) :
  ∃ calls outcome after,
    Replaces behaviour config callable occurrence world calls outcome after
      ∧ Action.Traced (behaviour.dispatch config occurrence)
        (behaviour.recording.dispatch config occurrence) world calls outcome after
  := by
  cases escaped : occurrence.tag.isEscaped with
  | true =>
    use [], .ok (occurrence.text.drop 1).dropLast, world
    rw [dispatch_of_escaped _ _ escaped, dispatch_of_escaped _ _ escaped]
    constructor
    · exact .escaped escaped
    · apply Action.traced_pure _ world
  | false =>
    obtain ⟨calls, outcome, after, replaces, traced⟩ :=
      @exists_replaceBy H K σ behaviour config callable occurrence escaped world
    use calls, outcome, after, replaces
    rw [dispatch_of_unescaped _ _ escaped, dispatch_of_unescaped _ _ escaped]
    rw [current] at traced
    -- What the name is bound to is read before anything is called.
    apply Action.traced_get (fun _ => rfl) traced

/-! ### Passes -/

variable {P : World H K σ → Prop}

variable (behaviour config callable) in
/-- The handlers that can be looked up, and the hooks around them, keep a property of worlds. -/
structure Keeps (P : World H K σ → Prop) : Prop where
  handle : ∀ {world : World H K σ} {name : Text} {handler : H}, P world →
    callable world name = .ok handler → ∀ (attributes : Attributes) (content : Option Text),
    Action.Keeps P (behaviour.handle handler attributes content name)
  preDispatch : ∀ {hook : K .preDispatch}, config.preDispatch = some hook →
    ∀ (name : Text) (attributes : Attributes) (occurrence : Occurrence),
    Action.Keeps P (behaviour.preDispatch hook name attributes occurrence)
  postDispatch : ∀ {hook : K .postDispatch}, config.postDispatch = some hook →
    ∀ (output name : Text) (attributes : Attributes) (occurrence : Occurrence),
    Action.Keeps P (behaviour.postDispatch hook output name attributes occurrence)

theorem keeps_admits {occurrence : Occurrence} {world after : World H K σ}
    {calls : List (Invocation H K)} (keeps : Keeps behaviour config callable P)
    (admits : Admits behaviour config occurrence world calls after) (holds : P world) :
  P after
  := by
  cases admits with
  | unset => apply holds
  | passed set run => apply Action.holds_after (keeps.preDispatch set _ _ _) run holds

/-- What handlers and hooks keep, is kept by the replacement of a tag. -/
theorem keeps_replaces {occurrence : Occurrence} {world after : World H K σ}
    {calls : List (Invocation H K)} {outcome : Except Fault Text}
    (keeps : Keeps behaviour config callable P)
    (replaces : Replaces behaviour config callable occurrence world calls outcome after)
    (holds : P world) :
  P after
  := by
  cases replaces with
  | escaped => apply holds
  | uncallable => apply holds
  | refused _ _ set run => apply Action.holds_after (keeps.preDispatch set _ _ _) run holds
  | intercepted _ _ set run => apply Action.holds_after (keeps.preDispatch set _ _ _) run holds
  | failed _ bound admits run =>
    have between := keeps_admits keeps admits holds
    apply Action.holds_after (keeps.handle holds bound _ _) run between
  | handled _ bound admits run =>
    have between := keeps_admits keeps admits holds
    apply Action.holds_after (keeps.handle holds bound _ _) run between
  | finished _ bound admits run set last =>
    have between := keeps_admits keeps admits holds
    have behind := Action.holds_after (keeps.handle holds bound _ _) run between
    apply Action.holds_after (keeps.postDispatch set _ _ _ _) last behind

/-- Dispatching tags one after the other takes the course that is laid down, with the calls
that are recorded, if handlers are looked up the same way in all worlds that can come up. -/
theorem exists_course (keeps : Keeps behaviour config callable P)
    (current : ∀ world, P world → callable world = world.registry.callable)
    (occurrences : List Occurrence) (world : World H K σ) (holds : P world) :
  ∃ calls outcome after,
    Course behaviour config callable occurrences world calls outcome after
      ∧ Action.Traced (occurrences.mapM (behaviour.dispatch config))
        (occurrences.mapM (behaviour.recording.dispatch config)) world calls outcome after
  := by
  induction occurrences generalizing world with
  | nil =>
    use [], .ok [], world
    constructor
    · exact .done
    · apply Action.traced_pure [] world
  | cons occurrence occurrences ih =>
    simp only [List.mapM_cons]
    obtain ⟨calls, given, between, first, dispatched⟩ :=
      @exists_replaces H K σ behaviour config callable occurrence world (current world holds)
    cases given with
    | error fault =>
      use calls, .error fault, between
      constructor
      · exact .aborted first
      · apply Action.traced_bind_of_error dispatched
    | ok text =>
      obtain ⟨calls', outcome, after, others, traced⟩ :=
        ih between (keeps_replaces keeps first holds)
      use calls ++ calls', outcome.map (text :: ·), after
      constructor
      · exact .next first others
      · apply Action.traced_bind dispatched
        apply Action.traced_map traced (text :: ·)

end Behaviour

end Shortcode
