import Shortcode.Proofs.Pass.Carried
import Shortcode.Proofs.Tag.Contains
import Shortcode.Proofs.Tag.Overrun

/-!
# What is handled and what is contained

A pass looks for the candidates among the registered names, and the containment check for all
registered names.  What a pass handles is contained in the text, if no tag that the pass looks for
overlaps a tag of a registered name that is no candidate.  Otherwise the two may cut the text in
different ways: with any two names registered, there is a text in which a tag is handled that is
not contained (`contained_of_called`).
-/

namespace Shortcode

namespace Registry

variable {H : Type} {registry : Registry H}

/-- The tags of the scan for all registered names are contained in the text. -/
theorem hasShortcode_of_mem_scan {text : Text} {occurrence : Occurrence}
    (found : occurrence ∈ Tag.scan registry.names text) :
  registry.hasShortcode text occurrence.tag.name
  := by
  apply hasShortcode_iff.mpr
  constructor
  · apply Entries.has_iff_mem_keys.mpr
    apply mem_names.mp (Tag.name_mem_of_mem_scan found)
  · apply containsTag_iff.mpr ⟨occurrence, found, .inl rfl⟩

/-- A single tag without content is all that the text contains. -/
theorem not_hasShortcode_of_alone {name text : Text} {tag : Tag}
    (alone : Text.items (Tag.read registry.names.toList) text = [tag])
    (empty : tag.content? = none) (other : tag.name ≠ name) :
  registry.hasShortcode text name = false
  := by
  rw [Bool.eq_false_iff]
  intro present
  apply other
  apply (containsTag_iff_of_alone alone empty).mp (hasShortcode_iff.mp present).2

end Registry

namespace Behaviour

variable {H : Type} {K : HookKind → Type} {σ : Type} {behaviour : Behaviour H K σ}
  {world : World H K σ}

/-- Expanding the text calls a handler by the name. -/
def CallsByName (behaviour : Behaviour H K σ) (text : Text) (world : World H K σ)
    (name : Text) : Prop :=
  ∃ handler attributes content, .handler handler attributes content name
    ∈ behaviour.callsOf text world

/-- What is handled is contained in the text, if no tag that is looked for overlaps a tag of a
name that does not stand anywhere between an opening bracket and a delimiter. -/
theorem hasShortcode_of_apart (reachable : world.registry.Reachable)
    (unhooked : world.config.Unhooked) {text name : Text}
    (apart : ∀ occurrence ∈ Tag.scan (world.registry.sought text) text,
      ∀ other ∈ Tag.scan world.registry.names text,
        NamedIn other.tag.name text ∨ Tag.Apart occurrence other)
    (called : behaviour.CallsByName text world name) :
  world.registry.hasShortcode text name
  := by
  obtain ⟨handler, attributes, content, made⟩ := called
  obtain ⟨occurrence, found, handler', same⟩ :=
    exists_occurrence_of_mem_callsOf unhooked made
  obtain rfl : name = occurrence.tag.name := by injection same
  apply Registry.hasShortcode_of_mem_scan
  have sought : world.registry.sought text
      = world.registry.names.filter fun name => decide (name ∈ candidates text) := rfl
  rw [sought] at found apart
  rw [Tag.scan_filter_eq_filter_iff.mpr] at found
  · exact (List.mem_filter.mp found).1
  · intro occurrence inside other inside'
    rw [decide_eq_true_eq,
      mem_candidates_of_registered reachable (Tag.name_mem_of_mem_scan inside')]
    apply apart occurrence inside other inside'

/-- With a single name registered, no tag is of a name that is not looked for. -/
theorem hasShortcode_of_alone (reachable : world.registry.Reachable)
    (unhooked : world.config.Unhooked)
    (alone : ∀ name ∈ world.registry.names, ∀ other ∈ world.registry.names, name = other)
    {text name : Text} (called : behaviour.CallsByName text world name) :
  world.registry.hasShortcode text name
  := by
  apply hasShortcode_of_apart reachable unhooked _ called
  intro occurrence inside other inside'
  obtain ⟨known, named⟩ :=
    (Registry.mem_sought_iff reachable).mp (Tag.name_mem_of_mem_scan inside)
  left
  rw [alone _ (Tag.name_mem_of_mem_scan inside') _ known]
  apply named

/-- Where a name is hidden by another one, its tag is handled and not contained. -/
theorem called_and_not_contained_of_hides (reachable : world.registry.Reachable)
    (unhooked : world.config.Unhooked) {short long : Text} {handler : H}
    (registered : short ∈ world.registry.names)
    (bound : world.registry.callable long = .ok handler) (hides : Hides short long) :
  behaviour.CallsByName (Tag.closed long []).render world long
    ∧ world.registry.hasShortcode (Tag.closed long []).render long = false
  := by
  have registered' := Registry.mem_names_of_callable bound
  have plain : ∀ name ∈ world.registry.names, name ≠ [] ∧ ∀ c ∈ name, isDelimiter c = false := by
    intro name
    apply Registry.plain_of_mem_names reachable
  constructor
  · have set : PlainAttributes [] := ⟨.inl rfl, by simp, by simp, by simp⟩
    use handler, .parse [], none
    rw [callsOf_closed reachable unhooked bound set]
    apply List.mem_singleton_self
  · obtain ⟨name, rest, readAs⟩ := exists_readAs registered'
    have written : (Tag.closed long []).render = (Tag.closed name rest).render := by
      simp [Tag.render_closed, readAs.split]
    have alone := Tag.items_render (Tag.read_closed plain registered' readAs (by simp))
    rw [written]
    apply Registry.not_hasShortcode_of_alone alone rfl
    intro self
    apply readAs.eq_self_iff.mp self short registered hides

/-- Where no name is hidden, a tag may still run over another one that is handled. -/
theorem called_and_not_contained_of_ne (reachable : world.registry.Reachable)
    (unhooked : world.config.Unhooked) {outer inner : Text} {handler : H}
    (registered : outer ∈ world.registry.names)
    (bound : world.registry.callable inner = .ok handler) (ne : outer ≠ inner)
    (unhidden : ∀ name ∈ world.registry.names, ∀ other ∈ world.registry.names,
      ¬ Hides other name) :
  behaviour.CallsByName (overrun outer inner) world inner
    ∧ world.registry.hasShortcode (overrun outer inner) inner = false
  := by
  have registered' := Registry.mem_names_of_callable bound
  have plain : ∀ name ∈ world.registry.names, name ≠ [] ∧ ∀ c ∈ name, isDelimiter c = false := by
    intro name
    apply Registry.plain_of_mem_names reachable
  constructor
  · have only : ∀ other, other ∈ world.registry.sought (overrun outer inner) ↔ other = inner := by
      intro other
      rw [Registry.mem_sought_iff reachable]
      constructor
      · rintro ⟨known, named⟩
        apply (namedIn_overrun_iff plain unhidden registered registered' known).mp named
      · rintro rfl
        use registered'
        apply (namedIn_overrun_iff plain unhidden registered registered' registered').mpr rfl
    have alone := items_overrun_of_inner plain unhidden registered registered' ne only
    use handler, .parse [], none
    rw [callsOf_eq_singleton unhooked alone rfl bound]
    apply List.mem_singleton_self
  · have alone := items_overrun plain unhidden registered registered'
    apply Registry.not_hasShortcode_of_alone alone rfl ne

/-- With any two names registered, there is a text in which a tag is handled that is not
contained. -/
theorem exists_called_and_not_contained (reachable : world.registry.Reachable)
    (bound : ∀ name ∈ world.registry.names, ∃ handler, world.registry.callable name = .ok handler)
    (unhooked : world.config.Unhooked) {outer inner : Text}
    (registered : outer ∈ world.registry.names) (registered' : inner ∈ world.registry.names)
    (ne : outer ≠ inner) :
  ∃ text name, behaviour.CallsByName text world name
    ∧ world.registry.hasShortcode text name = false
  := by
  by_cases hidden : ∃ long ∈ world.registry.names, ∃ short ∈ world.registry.names, Hides short long
  · obtain ⟨long, known, short, known', hides⟩ := hidden
    obtain ⟨handler, bound⟩ := bound long known
    use (Tag.closed long []).render, long
    exact called_and_not_contained_of_hides reachable unhooked known' bound
      hides
  · push Not at hidden
    obtain ⟨handler, bound⟩ := bound inner registered'
    use overrun outer inner, inner
    exact called_and_not_contained_of_ne reachable unhooked registered bound ne
      hidden

/-- What is handled is contained in the text, if no tag that is looked for overlaps a tag of a
name that does not stand anywhere between an opening bracket and a delimiter.  What is handled is
contained in every text, exactly if no two names are registered. -/
theorem contained_of_called (reachable : world.registry.Reachable)
    (bound : ∀ name ∈ world.registry.names, ∃ handler, world.registry.callable name = .ok handler)
    (unhooked : world.config.Unhooked) :
  (∀ text,
      (∀ occurrence ∈ Tag.scan (world.registry.sought text) text,
        ∀ other ∈ Tag.scan world.registry.names text,
          NamedIn other.tag.name text ∨ Tag.Apart occurrence other) →
      ∀ name, behaviour.CallsByName text world name → world.registry.hasShortcode text name)
    ∧ ((∀ text name, behaviour.CallsByName text world name →
        world.registry.hasShortcode text name)
      ↔ ∀ name ∈ world.registry.names, ∀ other ∈ world.registry.names, name = other)
  := by
  constructor
  · intro text apart name called
    apply hasShortcode_of_apart reachable unhooked apart called
  constructor
  · intro contained outer registered inner registered'
    by_contra ne
    obtain ⟨text, name, called, missed⟩ := exists_called_and_not_contained reachable bound
      unhooked registered registered' ne
    rw [contained text name called] at missed
    contradiction
  · intro alone text name called
    apply hasShortcode_of_alone reachable unhooked alone called

/-- With two names registered: a text in which a tag of a name that is not looked for stands
apart from the one that is handled, while not every text is like that. -/
theorem contained_of_called_of_two :
  let world := selfNamed ["a".toList, "c".toList]
  let text := "[a. x][/a] [c/]".toList
  world.registry.Reachable
    ∧ (∀ name ∈ world.registry.names, ∃ handler, world.registry.callable name = .ok handler)
    ∧ world.config.Unhooked
    ∧ (∀ occurrence ∈ Tag.scan (world.registry.sought text) text,
      ∀ other ∈ Tag.scan world.registry.names text,
        NamedIn other.tag.name text ∨ Tag.Apart occurrence other)
    ∧ (∀ name, counting.CallsByName text world name → world.registry.hasShortcode text name)
    ∧ ¬ ∀ text name, counting.CallsByName text world name →
      world.registry.hasShortcode text name
  := by
  intro world text
  have ordinary : counting.Ordinary world := ordinary_selfNamed (by decide +kernel)
  have contained := @contained_of_called _ _ _ counting world (reachable_selfNamed _)
    ordinary.bound ⟨rfl, rfl⟩
  have sought : Tag.scan (world.registry.sought text) text = [⟨.closed "c".toList [], 11⟩] := by
    decide +kernel
  have all : Tag.scan world.registry.names text
      = [⟨.enclosing "a".toList ". x".toList [], 0⟩, ⟨.closed "c".toList [], 11⟩] := by
    decide +kernel
  have apart : ∀ occurrence ∈ Tag.scan (world.registry.sought text) text,
      ∀ other ∈ Tag.scan world.registry.names text,
        NamedIn other.tag.name text ∨ Tag.Apart occurrence other := by
    rw [sought, all]
    intro occurrence inside other inside'
    obtain rfl := List.mem_singleton.mp inside
    simp only [List.mem_cons, List.not_mem_nil, or_false] at inside'
    rcases inside' with rfl | rfl
    · right
      right
      decide
    · left
      use "[a. x][/a] ".toList, ['c', '/', ']'], by decide
      exact ⟨['/', ']'], rfl, delimiting_cons (by decide) _⟩
  use reachable_selfNamed _, ordinary.bound, ⟨rfl, rfl⟩, apart, contained.1 text apart
  rw [contained.2]
  intro alone
  have same := alone "a".toList (by decide +kernel) "c".toList (by decide +kernel)
  contradiction

/-- A tag that is handled and not contained in the text. -/
theorem not_contained_of_dot :
  let world := selfNamed ["a".toList, "a.b".toList]
  let text := "[a.b/]".toList
  world.registry.Reachable
    ∧ counting.Ordinary world
    ∧ counting.CallsByName text world "a.b".toList
    ∧ world.registry.hasShortcode text "a.b".toList = false
  := by
  intro world text
  have ordinary : counting.Ordinary world := ordinary_selfNamed (by decide +kernel)
  have bound : world.registry.callable "a.b".toList = .ok "a.b".toList := by decide +kernel
  have hides : Hides "a".toList "a.b".toList := ⟨'.', ['b'], rfl, by decide +kernel⟩
  have written : (Tag.closed "a.b".toList []).render = text := by decide
  have missed := @called_and_not_contained_of_hides _ _ _ counting world (reachable_selfNamed _)
    ⟨rfl, rfl⟩ _ _ _ (by decide +kernel) bound hides
  rw [written] at missed
  use reachable_selfNamed _, ordinary

end Behaviour

end Shortcode
