import Shortcode.Proofs.Attributes.Written
import Shortcode.Proofs.Pass.Called

/-!
# Values carried through a tag

Written attributes reach the handler of a tag as they are meant (`carried`).  The tag is the only
one that a pass sees in its written form, as nothing else is named there: the names of other
handlers do not matter, and neither does what the handlers do.
-/

namespace Shortcode

variable {H : Type} {K : HookKind → Type} {σ : Type}

namespace Behaviour

variable {behaviour : Behaviour H K σ} {world : World H K σ} {name : Text} {handler : H}

/-- Without hooks, the handler of a tag that stands alone is called once, if the tag has a single
opening bracket and nothing else is named in its written form. -/
theorem callsOf_render (reachable : world.registry.Reachable)
    (unhooked : world.config.Unhooked) {tag : Tag}
    (bound : world.registry.callable tag.name = .ok handler) (single : tag.doubledOpen = false)
    (legible : tag.Legible []) (delimiting : Delimiting tag.attributes)
    (alone : ∀ other, other ≠ [] → (∀ c ∈ other, isDelimiter c = false) →
      ¬ NamedIn other (tag.attributes ++ (tag.body.render tag.name ++ tag.closer))) :
  behaviour.callsOf tag.render world
    = [.handler handler (.parse tag.attributes) tag.content? tag.name]
  := by
  have registered := Registry.mem_names_of_callable bound
  obtain ⟨nonempty, plain⟩ := Registry.plain_of_mem_names reachable registered
  have behind : Delimiting (tag.attributes ++ (tag.body.render tag.name ++ tag.closer)) :=
    delimiting.append (Tag.delimiting_body_render tag.body tag.name tag.closer)
  have written :
      tag.render = [] ++ '[' :: (tag.name
        ++ (tag.attributes ++ (tag.body.render tag.name ++ tag.closer))) := by
    simp [Tag.render, Tag.core, Tag.opener, single]
  have sought : ∀ other, other ∈ world.registry.sought tag.render ↔ other = tag.name := by
    intro other
    rw [Registry.mem_sought_iff reachable, written]
    constructor
    · rintro ⟨known, named⟩
      obtain ⟨nonempty', plain'⟩ := Registry.plain_of_mem_names reachable known
      rcases (namedIn_written_iff (by simp) plain plain' behind).mp named with same | elsewhere
      · apply same
      · apply absurd elsewhere (alone other nonempty' plain')
    · rintro rfl
      exact ⟨registered, (namedIn_written_iff (by simp) plain plain behind).mpr (.inl rfl)⟩
  have read : Tag.read (world.registry.sought tag.render).toList (tag.render ++ [])
      = some (tag, []) := by
    apply Tag.read_of_unhidden single nonempty _ legible ((sought _).mpr rfl) delimiting
    · intro other inside hides
      have longer := length_lt_of_hides hides
      rw [(sought other).mp inside] at longer
      omega
    · intro other inside
      rw [(sought other).mp inside]
      apply plain
  exact callsOf_eq_singleton unhooked (Tag.items_render read)
    (by simp [Tag.isEscaped, single]) bound

/-- The handler of a tag that closes itself is given the attributes. -/
theorem callsOf_closed (reachable : world.registry.Reachable)
    (unhooked : world.config.Unhooked)
    (bound : world.registry.callable name = .ok handler) {attributes : Text}
    (set : PlainAttributes attributes) :
  behaviour.callsOf (Tag.closed name attributes).render world
    = [.handler handler (.parse attributes) none name]
  := by
  have legible : (Tag.closed name attributes).Legible [] :=
    Tag.legible_closed set.delimiting.endsName set.unclosed (by simp)
  apply callsOf_render reachable unhooked bound rfl legible set.delimiting
  intro other _ _
  apply not_namedIn_of_not_mem
  simpa [Tag.closed, Tag.closer, Body.render] using set.unopened

/-- The handler of an enclosing tag is given the attributes and the content. -/
theorem callsOf_enclosing (reachable : world.registry.Reachable)
    (unhooked : world.config.Unhooked)
    (bound : world.registry.callable name = .ok handler) {attributes content : Text}
    (set : PlainAttributes attributes) (unopened : '[' ∉ content) :
  behaviour.callsOf (Tag.enclosing name attributes content).render world
    = [.handler handler (.parse attributes) (some content) name]
  := by
  have legible : (Tag.enclosing name attributes content).Legible [] :=
    Tag.legible_enclosing set.delimiting.endsName set.unclosed set.unslashed
      (Text.freeOf_of_not_mem unopened _).onlyAtEnd (by simp)
  apply callsOf_render reachable unhooked bound rfl legible set.delimiting
  intro other nonempty plain
  have written : attributes ++ ((Body.enclosing content).render name ++ [])
      = (attributes ++ ']' :: content) ++ '[' :: ([] ++ '/' :: (name ++ [']'])) := by
    simp [Body.render, closingMark_eq]
  have registered := Registry.mem_names_of_callable bound
  have unopened' := not_mem_of_plain (Registry.plain_of_mem_names reachable registered).2
    (d := '[') (by decide)
  change ¬ NamedIn other (attributes ++ ((Body.enclosing content).render name ++ []))
  rw [written, namedIn_written_iff _ (by simp) plain (delimiting_cons (by decide) _)]
  · rintro (rfl | named)
    · contradiction
    · apply not_namedIn_of_not_mem _ named
      simpa using unopened'
  · simpa using ⟨set.unopened, unopened⟩

/-- Written as attributes of a tag, the text reaches the handler as the given attributes, in a
tag that closes itself and in one that encloses a content; the handler is called once. -/
def Carries (behaviour : Behaviour H K σ) (world : World H K σ) (name : Text) (handler : H)
    (written : Text) (given : Attributes) : Prop :=
  behaviour.callsOf ('[' :: (name ++ (written ++ ['/', ']']))) world
      = [.handler handler given none name]
    ∧ ∀ content, '[' ∉ content →
      behaviour.callsOf ('[' :: (name ++ (written ++ ']' :: (content ++ closingMark name)))) world
        = [.handler handler given (some content) name]

theorem carries_of_plain (reachable : world.registry.Reachable)
    (unhooked : world.config.Unhooked)
    (bound : world.registry.callable name = .ok handler) {written : Text}
    (set : PlainAttributes written) :
  Carries behaviour world name handler written (.parse written)
  := by
  constructor
  · rw [← Tag.render_closed]
    apply callsOf_closed reachable unhooked bound set
  · intro content unopened
    rw [← Tag.render_enclosing]
    apply callsOf_enclosing reachable unhooked bound set unopened

/-- Any values that close their markup can be carried through a tag: under keys, of which the
first one counts, or as positional values, if they are not empty. -/
theorem carried (reachable : world.registry.Reachable)
    (unhooked : world.config.Unhooked)
    (bound : world.registry.callable name = .ok handler) (digits : Digits) :
  (∀ pairs : List (Text × Text), pairs ≠ [] →
      (∀ pair ∈ pairs, Attributes.IsKey pair.1 ∧ MarkupClosed pair.2) →
      Carries behaviour world name handler (Attributes.writeNamed digits pairs)
        (.named (.firsts (Attributes.lowered pairs))))
    ∧ ∀ values : List Text, (∀ value ∈ values, value ≠ [] ∧ MarkupClosed value) →
      Carries behaviour world name handler (Attributes.writePositional digits values)
        (.positional values)
  := by
  constructor
  · intro pairs nonempty writable
    have keys := fun pair inside => (writable pair inside).1
    have closed := fun pair inside => (writable pair inside).2
    rw [← Attributes.parse_writeNamed nonempty keys closed]
    apply carries_of_plain reachable unhooked bound
    apply Attributes.plainAttributes_writeNamed keys
  · intro values writable
    have filled := fun value inside => (writable value inside).1
    have closed := fun value inside => (writable value inside).2
    have parsed : Attributes.parse (Attributes.writePositional digits values) = _ :=
      Attributes.parse_writePositional filled closed
    rw [← parsed]
    apply carries_of_plain reachable unhooked bound
    apply Attributes.plainAttributes_writePositional

/-- A key that is repeated in another case, values of masked characters, of digits behind a
backslash and of markup, and a name that another one hides. -/
theorem carried_of_masked :
  let world := selfNamed ["a".toList, "a.b".toList]
  let pairs : List (Text × Text) :=
    [("K".toList, "[\\]\"".toList), ("x-1".toList, "\u00A0\u200B".toList),
      ("k".toList, "y".toList), ("_".toList, [])]
  let values : List Text := ["\\41".toList, "<b> c='d'/".toList]
  world.registry.Reachable
    ∧ world.config.Unhooked
    ∧ world.registry.callable "a.b".toList = .ok "a.b".toList
    ∧ pairs ≠ []
    ∧ (∀ pair ∈ pairs, Attributes.IsKey pair.1 ∧ MarkupClosed pair.2)
    ∧ (∀ value ∈ values, value ≠ [] ∧ MarkupClosed value)
    ∧ Carries counting world "a.b".toList "a.b".toList (Attributes.writeNamed .lowerCase pairs)
      (.named (.firsts (Attributes.lowered pairs)))
    ∧ Carries counting world "a.b".toList "a.b".toList
      (Attributes.writePositional .upperCase values) (.positional values)
  := by
  intro world pairs values
  have bound : world.registry.callable "a.b".toList = .ok "a.b".toList := by decide +kernel
  have writable : ∀ pair ∈ pairs, Attributes.IsKey pair.1 ∧ MarkupClosed pair.2 := by
    decide +kernel
  have writable' : ∀ value ∈ values, value ≠ [] ∧ MarkupClosed value := by decide +kernel
  refine ⟨reachable_selfNamed _, ⟨rfl, rfl⟩, bound, by decide, writable, writable', ?_, ?_⟩
  · exact (carried (reachable_selfNamed _) ⟨rfl, rfl⟩ bound .lowerCase).1 pairs (by decide) writable
  · exact (carried (reachable_selfNamed _) ⟨rfl, rfl⟩ bound .upperCase).2 values writable'

end Behaviour

end Shortcode
