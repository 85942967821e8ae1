import Shortcode.Proofs.Pass.Called
import Shortcode.Proofs.Pass.Stripping
import Shortcode.Proofs.Tag.Paired

/-!
# Texts that are settled

A text is settled if it has no tags of the names that are looked for in it: it is expanded and
stripped to itself, and nothing is called.  Where brackets come in pairs, what is left of a text
that was expanded by tame handlers, or stripped, is settled (`settles`).
-/

namespace Shortcode

variable {H : Type} {K : HookKind → Type} {σ : Type}

/-- The registry and the configuration are those of the other world. -/
structure World.Agrees (world other : World H K σ) : Prop where
  registry : world.registry = other.registry
  config : world.config = other.config

/-- Without an ampersand there are no references to restore. -/
theorem restoreBrackets_of_unreferenced {text : Text} (without : '&' ∉ text) :
  restoreBrackets text = text
  := by
  have absent : ¬ referenceStart <:+: text := by
    intro within
    apply without
    apply within.subset
    decide
  have none := Text.splitAtFirst?_eq_none_iff.mpr absent
  rw [restoreBrackets, Text.occursIn, none]
  rfl

/-- Where there are no tags, there is nothing to fill in. -/
theorem fill_of_scan_eq_nil {names : NameSet} {text : Text} (bare : Tag.scan names text = []) :
  fill (Tag.pieces names text) [] = text
  := by
  have woven := Tag.weave_gaps_text names text
  have filled := @Tag.fill_pieces names text [] (congrArg List.length bare).symm
  rw [filled]
  rw [bare] at woven ⊢
  apply woven

theorem assemble_of_scan_eq_nil {names : NameSet} {text : Text} (without : '&' ∉ text)
    (bare : Tag.scan names text = []) :
  assemble names text [] = text
  := by
  rw [assemble, ← Tag.fill_pieces (congrArg List.length bare).symm, fill_of_scan_eq_nil bare,
    restoreBrackets_of_unreferenced without]

/-! ### Stripping -/

/-- Without an ampersand in the text, the tags are taken out even if there are no names. -/
theorem stripTags_eq (names : NameSet) {text : Text} (without : '&' ∉ text) :
  stripTags names text
    = restoreBrackets
        (fill (Tag.pieces names text) ((Tag.scan names text).map (Tag.stripped ∘ Occurrence.tag)))
  := by
  by_cases nonempty : ∃ name, name ∈ names
  · apply stripTags_of_mem nonempty
  · have empty := not_exists.mp nonempty
    have bare := Tag.scan_eq_nil_of_empty empty text
    rw [stripTags_of_empty empty, bare, List.map_nil, fill_of_scan_eq_nil bare,
      restoreBrackets_of_unreferenced without]

theorem Tag.stripped_of_single {tag : Tag} (singleOpen : tag.doubledOpen = false)
    (singleClose : tag.doubledClose = false) :
  tag.stripped = []
  := by simp [stripped, isEscaped, opener, closer, singleOpen, singleClose]

/-- Where the brackets are paired, the tags of a scan have none doubled. -/
theorem single_of_mem_scan {names : NameSet} {text : Text} (paired : Paired text) :
  ∀ occurrence ∈ Tag.scan names text,
    occurrence.tag.doubledOpen = false ∧ occurrence.tag.doubledClose = false
  := by
  intro occurrence inside
  apply Tag.single_of_mem_items paired
  rw [← Tag.map_tag_scan]
  apply List.mem_map_of_mem inside

/-- Filling clean texts in for the tags of a scan clears a text, and leaves no references. -/
theorem cleared_scan {names : NameSet} {text : Text} (paired : Paired text)
    (without : '&' ∉ text) {texts : List Text}
    (enough : texts.length = (Tag.scan names text).length) (clean : ∀ text ∈ texts, Clean text) :
  Cleared names text (restoreBrackets (fill (Tag.pieces names text) texts))
  := by
  have clears : Cleared names text (fill (Tag.pieces names text) texts) := by
    apply cleared_fill paired _ clean
    rw [enough, ← Tag.map_tag_scan, List.length_map]
  rwa [restoreBrackets_of_unreferenced (clears.unreferenced without)]

/-- What is left of the tags is nothing, where the brackets are paired. -/
theorem map_stripped_scan {names : NameSet} {text : Text} (paired : Paired text) :
  (Tag.scan names text).map (Tag.stripped ∘ Occurrence.tag)
    = List.replicate (Tag.scan names text).length []
  := by
  apply List.eq_replicate_iff.mpr
  constructor
  · apply List.length_map
  · intro text inside
    obtain ⟨occurrence, found, rfl⟩ := List.mem_map.mp inside
    obtain ⟨singleOpen, singleClose⟩ := single_of_mem_scan paired occurrence found
    apply Tag.stripped_of_single singleOpen singleClose

/-- Stripping clears a text. -/
theorem cleared_stripTags {names : NameSet} {text : Text} (paired : Paired text)
    (without : '&' ∉ text) :
  Cleared names text (stripTags names text)
  := by
  rw [stripTags_eq names without, map_stripped_scan paired]
  apply cleared_scan paired without List.length_replicate
  intro text inside
  obtain rfl := List.eq_of_mem_replicate inside
  apply clean_nil

/-! ### Expanding -/

namespace Behaviour

variable {behaviour : Behaviour H K σ} {callable : World H K σ → Text → Except Fault H}
  {world : World H K σ} {P : World H K σ → Prop}

/-- Without an ampersand in the text, a pass takes a course even if no name is looked for. -/
theorem exists_course_expand_of_unreferenced
    (keeps : Keeps behaviour world.config callable P)
    (current : ∀ world, P world → callable world = world.registry.callable) {text : Text}
    (holds : P world) (without : '&' ∉ text) :
  ∃ calls outcome after,
    Course behaviour world.config callable (Tag.scan (world.registry.sought text) text) world
        calls outcome after
      ∧ Action.Traced (behaviour.expand text) (behaviour.recording.expand text) world calls
        (outcome.map (assemble (world.registry.sought text) text)) after
  := by
  by_cases busy : ∃ name, name ∈ world.registry.sought text
  · apply exists_course_expand keeps current holds busy
  · have idle := not_exists.mp busy
    have bare := Tag.scan_eq_nil_of_empty idle text
    use [], .ok [], world
    rw [bare]
    constructor
    · exact .done
    · rw [Except.map, assemble_of_scan_eq_nil without bare]
      apply traced_expand_of_idle idle

/-- What the handlers that are bound in the world put into a text has the property, as long as
the registry and the configuration are left alone. -/
def Gives (behaviour : Behaviour H K σ) (world : World H K σ) (property : Text → Prop) : Prop :=
  ∀ {name : Text} {handler : H}, world.registry.callable name = .ok handler →
    ∀ (attributes : Attributes) (content : Option Text) {current after : World H K σ}
    {result : Datum}, current.Agrees world →
    (behaviour.handle handler attributes content name).runOn current = (.ok result, after) →
    property result.inserted

/-- Every name is bound to a handler, no hook takes part in passes, and handlers give clean
texts and leave the registry and the configuration alone. -/
structure Tame (behaviour : Behaviour H K σ) (world : World H K σ) : Prop where
  bound : ∀ name ∈ world.registry.names, ∃ handler, world.registry.callable name = .ok handler
  unhooked : world.config.Unhooked
  noStripFilter : world.config.stripFilter = none
  returns : ∀ {name : Text} {handler : H}, world.registry.callable name = .ok handler →
    ∀ (attributes : Attributes) (content : Option Text) {current : World H K σ},
    current.Agrees world →
    ∃ result after,
      (behaviour.handle handler attributes content name).runOn current = (.ok result, after)
        ∧ after.Agrees world
  clean : behaviour.Gives world Clean

theorem Tame.keeps (tame : behaviour.Tame world) :
  Keeps behaviour world.config (fun _ => world.registry.callable) (·.Agrees world)
  := by
  constructor
  · intro _ name handler _ bound attributes content current agrees
    obtain ⟨result, after, run, agrees'⟩ := tame.returns bound attributes content agrees
    rw [run]
    apply agrees'
  · intro hook set
    rw [tame.unhooked.preDispatch] at set
    contradiction
  · intro hook set
    rw [tame.unhooked.postDispatch] at set
    contradiction

variable {property : Text → Prop} {before after : World H K σ} {calls : List (Invocation H K)}

/-- A tag with single brackets is replaced by what its handler puts into the text. -/
theorem exists_of_replaces (tame : behaviour.Tame world) (gives : behaviour.Gives world property)
    {occurrence : Occurrence} {outcome : Except Fault Text}
    (named : occurrence.tag.name ∈ world.registry.names)
    (singleOpen : occurrence.tag.doubledOpen = false)
    (singleClose : occurrence.tag.doubledClose = false) (agrees : before.Agrees world)
    (replaces : Replaces behaviour world.config (fun _ => world.registry.callable) occurrence before
      calls outcome after) :
  ∃ text, outcome = .ok text ∧ property text
  := by
  obtain ⟨handler, bound⟩ := tame.bound _ named
  have unescaped : occurrence.tag.isEscaped = false := by simp [Tag.isEscaped, singleOpen]
  obtain ⟨-, given, run, rfl⟩ := handled_of_replaces tame.unhooked replaces unescaped bound
  obtain ⟨result, behind, returned, -⟩ :=
    tame.returns bound occurrence.parsed occurrence.tag.content? agrees
  rw [run] at returned
  obtain rfl := (Prod.mk.inj returned).1
  refine ⟨_, rfl, ?_⟩
  have holds := gives bound occurrence.parsed occurrence.tag.content? agrees run
  simpa [Occurrence.output, Tag.opener, Tag.closer, singleOpen, singleClose] using holds

/-- Tags with single brackets are replaced by what their handlers put into the text. -/
theorem exists_of_course (tame : behaviour.Tame world) (gives : behaviour.Gives world property)
    {occurrences : List Occurrence} {outcome : Except Fault (List Text)}
    (named : ∀ occurrence ∈ occurrences, occurrence.tag.name ∈ world.registry.names)
    (single : ∀ occurrence ∈ occurrences,
      occurrence.tag.doubledOpen = false ∧ occurrence.tag.doubledClose = false)
    (agrees : before.Agrees world)
    (course : Course behaviour world.config (fun _ => world.registry.callable) occurrences before
      calls outcome after) :
  after.Agrees world ∧ ∃ texts, outcome = .ok texts ∧ ∀ text ∈ texts, property text
  := by
  have step : ∀ occurrence ∈ occurrences, ∀ {before after calls outcome}, before.Agrees world →
      Replaces behaviour world.config (fun _ => world.registry.callable) occurrence before calls
        outcome after →
      ∃ text, outcome = .ok text ∧ property text ∧ after.Agrees world := by
    intro occurrence inside before after calls outcome agrees replaces
    obtain ⟨singleOpen, singleClose⟩ := single occurrence inside
    obtain ⟨text, given, holds⟩ :=
      exists_of_replaces tame gives (named occurrence inside) singleOpen singleClose agrees replaces
    exact ⟨text, given, holds, keeps_replaces (P := (·.Agrees world)) tame.keeps replaces agrees⟩
  obtain ⟨texts, given, right, agrees'⟩ := forall₂_of_course step agrees course
  exact ⟨agrees', texts, given, forall_mem_of_forall₂ right fun _ _ holds => holds⟩

/-- Expanding with tame handlers puts one text in place of each tag. -/
theorem exists_fill_of_expand (tame : behaviour.Tame world)
    (gives : behaviour.Gives world property) {text : Text} (paired : Paired text)
    (without : '&' ∉ text) :
  ∃ texts after,
    (behaviour.expand text).runOn world
        = (.ok (restoreBrackets (fill (Tag.pieces (world.registry.sought text) text) texts)), after)
      ∧ after.Agrees world
      ∧ texts.length = (Tag.scan (world.registry.sought text) text).length
      ∧ ∀ text ∈ texts, property text
  := by
  have current : ∀ other : World H K σ, other.Agrees world →
      world.registry.callable = other.registry.callable := by
    intro other agrees
    rw [agrees.registry]
  obtain ⟨calls, outcome, after, course, traced⟩ :=
    exists_course_expand_of_unreferenced tame.keeps current ⟨rfl, rfl⟩ without
  obtain ⟨agrees, texts, rfl, holds⟩ := exists_of_course tame gives Registry.mem_names_of_mem_scan
    (single_of_mem_scan paired) ⟨rfl, rfl⟩ course
  have enough := length_of_course course texts rfl
  refine ⟨texts, after, ?_, agrees, enough, holds⟩
  rw [traced.run, Tag.fill_pieces enough]
  rfl

/-! ### Settled texts -/

/-- A text without tags of the names that are looked for is expanded to itself, with no call. -/
theorem traced_expand_of_scan_eq_nil {text : Text} (without : '&' ∉ text)
    (bare : Tag.scan (world.registry.sought text) text = []) :
  Action.Traced (behaviour.expand text) (behaviour.recording.expand text) world [] (.ok text) world
  := by
  by_cases busy : ∃ name, name ∈ world.registry.sought text
  · obtain ⟨calls, outcome, after, course, traced⟩ :=
      @exists_live_course_expand H K σ behaviour text world busy
    rw [bare] at course
    cases course
    rwa [Except.map, assemble_of_scan_eq_nil without bare] at traced
  · apply traced_expand_of_idle (not_exists.mp busy)

/-- In a text that was cleared of the tags that were looked for, no more tags are looked for. -/
theorem scan_eq_nil_of_cleared {registry : Registry H} (reachable : registry.Reachable)
    {text cleared : Text} (clears : Cleared (registry.sought text) text cleared) :
  Tag.scan (registry.sought cleared) cleared = []
  := by
  have plain : ∀ name ∈ registry.names, ∀ c ∈ name, isDelimiter c = false := by
    intro name registered
    apply (Registry.plain_of_mem_names reachable registered).2
  rw [← List.map_eq_nil_iff (f := Occurrence.tag), Tag.map_tag_scan]
  apply clears.items_eq_nil
  · intro name sought
    apply plain name ((Registry.mem_sought_iff reachable).mp sought).1
  · intro name sought
    obtain ⟨registered, named⟩ := (Registry.mem_sought_iff reachable).mp sought
    apply (Registry.mem_sought_iff reachable).mpr
    exact ⟨registered, clears.namedIn (plain name registered) named⟩

theorem stripTags_of_scan_eq_nil {names : NameSet} {text : Text} (without : '&' ∉ text)
    (bare : Tag.scan names text = []) :
  stripTags names text = text
  := by
  rw [stripTags_eq names without, bare, List.map_nil, fill_of_scan_eq_nil bare,
    restoreBrackets_of_unreferenced without]

/-- The text is expanded to itself, with no call, and stripped to itself. -/
structure Settled (behaviour : Behaviour H K σ) (world : World H K σ) (text : Text) : Prop where
  expand : (behaviour.expand text).runOn world = (.ok text, world)
  calls : behaviour.callsOf text world = []
  strip : (behaviour.strip text).runOn world = (.ok text, world)

theorem settled_of_cleared (reachable : world.registry.Reachable)
    (unset : world.config.stripFilter = none) {text cleared : Text} (without : '&' ∉ text)
    (clears : Cleared (world.registry.sought text) text cleared) {later : World H K σ}
    (agrees : later.Agrees world) :
  behaviour.Settled later cleared
  := by
  have bare := scan_eq_nil_of_cleared reachable clears
  rw [← agrees.registry] at bare
  rw [← agrees.config] at unset
  have without' := clears.unreferenced without
  have traced := @traced_expand_of_scan_eq_nil H K σ behaviour later cleared without' bare
  constructor
  · apply traced.run
  · apply callsOf_of_traced traced
  · rw [runOn_strip _ unset, stripTags_of_scan_eq_nil without' bare]

/-- With tame handlers, and where brackets come in pairs: what a text is expanded to is settled,
and so is what it is stripped to; and if all handlers give the empty text, these two are the
same. -/
theorem settles (reachable : world.registry.Reachable) (tame : behaviour.Tame world)
    {text : Text} (paired : Paired text) (without : '&' ∉ text) :
  ∃ expanded stripped after,
    (behaviour.expand text).runOn world = (.ok expanded, after)
      ∧ after.Agrees world
      ∧ (∀ later : World H K σ, later.Agrees world →
        (behaviour.strip text).runOn later = (.ok stripped, later)
          ∧ behaviour.Settled later expanded
          ∧ behaviour.Settled later stripped)
      ∧ (behaviour.Gives world (· = []) → expanded = stripped)
  := by
  let names := world.registry.sought text
  let property : Text → Prop := fun text =>
    Clean text ∧ (behaviour.Gives world (· = []) → text = [])
  have gives : behaviour.Gives world property := by
    intro name handler bound attributes content current after result agrees run
    constructor
    · apply tame.clean bound attributes content agrees run
    · intro silent
      apply silent bound attributes content agrees run
  obtain ⟨texts, after, run, agrees, enough, holds⟩ :=
    exists_fill_of_expand tame gives paired without
  have expands : Cleared names text (restoreBrackets (fill (Tag.pieces names text) texts)) :=
    cleared_scan paired without enough fun text inside => (holds text inside).1
  have strips : Cleared names text (stripTags names text) := cleared_stripTags paired without
  refine ⟨_, stripTags names text, after, run, agrees, ?settled, ?same⟩
  case settled =>
    intro later agrees'
    have unset : later.config.stripFilter = none := by
      rw [agrees'.config, tame.noStripFilter]
    refine ⟨?_, settled_of_cleared reachable tame.noStripFilter without expands agrees',
      settled_of_cleared reachable tame.noStripFilter without strips agrees'⟩
    rw [runOn_strip _ unset, agrees'.registry]
  case same =>
    intro silent
    have empty : texts = List.replicate (Tag.scan names text).length [] := by
      apply List.eq_replicate_iff.mpr
      use enough
      intro text inside
      apply (holds text inside).2 silent
    rw [stripTags_eq names without, map_stripped_scan paired, ← empty]

theorem clean_of_mem_names {registry : Registry H} (reachable : registry.Reachable) {name : Text}
    (registered : name ∈ registry.names) :
  Clean name
  := by
  have plain := (Registry.plain_of_mem_names reachable registered).2
  exact ⟨⟨not_mem_of_plain plain (by decide), not_mem_of_plain plain (by decide)⟩,
    not_mem_of_plain plain (by decide)⟩

theorem tame_selfNamed {names : List Text}
    (bound : ∀ name ∈ (selfNamed names).registry.names.toList,
      (selfNamed names).registry.callable name = .ok name) :
  counting.Tame (selfNamed names)
  := by
  constructor
  · intro name inside
    exact ⟨name, bound name inside⟩
  · exact ⟨rfl, rfl⟩
  · rfl
  · intro name handler _ _ _ current agrees
    exact ⟨.text handler, { current with rest := current.rest + 1 }, rfl, agrees.registry,
      agrees.config⟩
  · intro name handler callable attributes content current after result agrees run
    have registered := Registry.mem_names_of_callable callable
    obtain rfl : name = handler := by
      rw [bound name registered] at callable
      apply Except.ok.inj callable
    obtain rfl : Datum.text name = result := Except.ok.inj (Prod.mk.inj run).1
    apply clean_of_mem_names (reachable_selfNamed names) registered

/-- Names that share beginnings, a pair without a name, and one whose name a dot continues. -/
theorem settles_of_shared_beginning :
  let world := selfNamed ["b".toList, "bold".toList, "b.c".toList]
  let text := "x [b] y [bold z] [q] w [/b] [b.c/] [] u".toList
  world.registry.Reachable
    ∧ counting.Tame world
    ∧ Paired text
    ∧ '&' ∉ text
    ∧ ∃ expanded stripped after,
      (counting.expand text).runOn world = (.ok expanded, after)
        ∧ after.Agrees world
        ∧ (∀ later : World Text (fun _ => Unit) Nat, later.Agrees world →
          (counting.strip text).runOn later = (.ok stripped, later)
            ∧ counting.Settled later expanded
            ∧ counting.Settled later stripped)
        ∧ (counting.Gives world (· = []) → expanded = stripped)
  := by
  intro world text
  have tame : counting.Tame world := tame_selfNamed (by decide +kernel)
  have paired : Paired text := ⟨6, by decide⟩
  have without : '&' ∉ text := by decide
  use reachable_selfNamed _, tame, paired, without
  exact settles (reachable_selfNamed _) tame paired without

end Behaviour

end Shortcode
