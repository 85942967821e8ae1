import Mathlib.Data.List.Forall2
import Shortcode.Proofs.Pass.Called
import Shortcode.Proofs.Tag.Written

/-!
# Names told apart

In a text of tags that close themselves and have no attributes, a pass calls one handler for
each tag: that of the shortest of the written names that is the name or hides it, with the rest
of the name as attributes.  So all handlers are the ones of the written names exactly if none of
the written names hides another one (`told_apart_iff`).
-/

namespace Shortcode

/-! ### Lists of partners -/

section Partners

variable {α β γ : Type} {as : List α} {bs : List β} {cs : List γ} {given : α → β → Prop}

/-- Partners of partners. -/
theorem forall₂_comp {given' : β → γ → Prop} (first : List.Forall₂ given as bs)
    (second : List.Forall₂ given' bs cs) :
  List.Forall₂ (fun a c => ∃ b, given a b ∧ given' b c) as cs
  := by
  induction first generalizing cs with
  | nil =>
    cases second
    exact .nil
  | cons here _ ih =>
    cases second with
    | cons here' others => exact .cons ⟨_, here, here'⟩ (ih others)

/-- Whether a relation holds between all partners, if for partners it depends on the first one
alone. -/
theorem forall₂_iff_of_forall₂ {relation : α → β → Prop} {P : α → Prop}
    (paired : List.Forall₂ given as bs) (depends : ∀ a b, given a b → (relation a b ↔ P a)) :
  List.Forall₂ relation as bs ↔ ∀ a ∈ as, P a
  := by
  induction paired with
  | nil => simp
  | cons here _ ih => rw [List.forall₂_cons, List.forall_mem_cons, depends _ _ here, ih]

end Partners

/-! ### The tags that are written -/

/-- A text and the name of the tag behind it. -/
structure Mark where
  front : Text
  name : Text

/-- Tags that close themselves and have no attributes, each behind its text, and a last text. -/
def spell : List Mark → Text → Text
  | [], last => last
  | mark :: marks, last => mark.front ++ '[' :: mark.name ++ ['/', ']'] ++ spell marks last

/-- The marks are separated by texts without brackets. -/
structure Separated (marks : List Mark) (last : Text) : Prop where
  unopened : ∀ mark ∈ marks, '[' ∉ mark.front
  unclosed : ∀ mark ∈ marks, ']' ∉ mark.front
  unopened_last : '[' ∉ last
  unclosed_last : ']' ∉ last

theorem Separated.tail {mark : Mark} {marks : List Mark} {last : Text}
    (separated : Separated (mark :: marks) last) :
  Separated marks last
  := by
  constructor
  · exact (List.forall_mem_cons.mp separated.unopened).2
  · exact (List.forall_mem_cons.mp separated.unclosed).2
  · apply separated.unopened_last
  · apply separated.unclosed_last

/-- Behind a tag no closing bracket stands. -/
theorem head?_spell_ne {marks : List Mark} {last : Text}
    (separated : Separated marks last) :
  (spell marks last).head? ≠ some ']'
  := by
  cases marks with
  | nil =>
    intro bracket
    apply separated.unclosed_last (List.mem_of_head? bracket)
  | cons mark marks =>
    simp only [spell, List.append_assoc]
    apply Text.head?_append_ne (separated.unclosed mark List.mem_cons_self)
    simp

/-- The candidates of the text are the names of its tags. -/
theorem namedIn_spell_iff {marks : List Mark} {last : Text}
    (separated : Separated marks last)
    (plain : ∀ mark ∈ marks, ∀ c ∈ mark.name, isDelimiter c = false) {other : Text}
    (plain' : ∀ c ∈ other, isDelimiter c = false) :
  NamedIn other (spell marks last) ↔ other ∈ marks.map Mark.name
  := by
  induction marks with
  | nil => simpa [spell] using not_namedIn_of_not_mem separated.unopened_last
  | cons mark marks ih =>
    rw [List.forall_mem_cons] at plain
    have unopened := separated.unopened mark List.mem_cons_self
    have delimiting : Delimiting (['/', ']'] ++ spell marks last) := delimiting_cons (by decide) _
    have written : spell (mark :: marks) last
        = mark.front ++ '[' :: (mark.name ++ (['/', ']'] ++ spell marks last)) := by
      simp [spell]
    rw [written, namedIn_written_iff unopened plain.1 plain' delimiting,
      namedIn_append_iff (by decide), ih separated.tail plain.2, List.map_cons, List.mem_cons]

variable {names : NameSet}

/-- The tags that are read, one for each mark. -/
theorem forall₂_readAs_items {marks : List Mark} {last : Text}
    (separated : Separated marks last)
    (plain : ∀ name ∈ names, name ≠ [] ∧ ∀ c ∈ name, isDelimiter c = false)
    (named : ∀ mark ∈ marks, mark.name ∈ names) :
  List.Forall₂
    (fun name tag => ∃ short rest, ReadAs names name short rest ∧ tag = .closed short rest)
    (marks.map Mark.name) (Text.items (Tag.read names.toList) (spell marks last))
  := by
  induction marks with
  | nil =>
    rw [spell, Tag.items_of_no_bracket separated.unopened_last]
    exact .nil
  | cons mark marks ih =>
    rw [List.forall_mem_cons] at named
    obtain ⟨short, rest, readAs⟩ := exists_readAs named.1
    have written : spell (mark :: marks) last
        = mark.front ++ ((Tag.closed short rest).render ++ spell marks last) := by
      rw [spell, Tag.render_closed, readAs.split]
      simp
    have found := Tag.read_closed plain named.1 readAs (head?_spell_ne separated.tail)
    rw [written, Tag.items_written (separated.unopened mark List.mem_cons_self) found,
      List.map_cons]
    exact .cons ⟨short, rest, readAs, rfl⟩ (ih separated.tail named.2)

namespace Behaviour

variable {H : Type} {K : HookKind → Type} {σ : Type} {behaviour : Behaviour H K σ}
  {world : World H K σ}

/-- The names that are looked for are those of the tags. -/
theorem sought_spell {registry : Registry H} (reachable : registry.Reachable) {marks : List Mark}
    {last : Text} (separated : Separated marks last)
    (registered : ∀ mark ∈ marks, mark.name ∈ registry.names) :
  registry.sought (spell marks last) = .ofList (marks.map Mark.name)
  := by
  have plain : ∀ mark ∈ marks, ∀ c ∈ mark.name, isDelimiter c = false := by
    intro mark inside
    exact (Registry.plain_of_mem_names reachable (registered mark inside)).2
  apply NameSet.ext
  intro other
  rw [Registry.mem_sought_iff reachable, NameSet.mem_ofList]
  constructor
  · rintro ⟨known, named⟩
    have plain' := (Registry.plain_of_mem_names reachable known).2
    exact (namedIn_spell_iff separated plain plain').mp named
  · intro inside
    obtain ⟨mark, member, rfl⟩ := List.mem_map.mp inside
    have known := registered mark member
    exact ⟨known, (namedIn_spell_iff separated plain (plain mark member)).mpr inside⟩

/-- The call is the one for a tag of that name, without attributes and content. -/
def CalledAsSelf (registry : Registry H) (name : Text) (call : Invocation H K) : Prop :=
  ∃ handler, registry.callable name = .ok handler
    ∧ call = .handler handler (.positional []) none name

/-- The call is the one for a tag of the name that is read in place of the name, with the rest
of it as attributes. -/
def CalledAsRead (registry : Registry H) (names : NameSet) (name : Text)
    (call : Invocation H K) : Prop :=
  ∃ short rest, ReadAs names name short rest ∧ registry.Calls (.closed short rest) call

/-- The call that a name leads to is its own exactly if none of the names hides it. -/
theorem CalledAsRead.calledAsSelf_iff {registry : Registry H} {names : NameSet} {name : Text}
    {call : Invocation H K} (called : CalledAsRead registry names name call) :
  CalledAsSelf registry name call ↔ ∀ other ∈ names, ¬ Hides other name
  := by
  obtain ⟨short, rest, readAs, handler, bound, made⟩ := called
  rw [← readAs.eq_self_iff]
  constructor
  · rintro ⟨handler', -, own⟩
    rw [own] at made
    injection made with _ _ _ same
    exact same.symm
  · rintro rfl
    have nothing : rest = [] := by simpa using readAs.split
    subst nothing
    exact ⟨handler, bound, made⟩

/-- In a text of tags that close themselves and have no attributes, one handler is called for
each tag. -/
theorem calledAsRead_callsOf (reachable : world.registry.Reachable)
    (ordinary : behaviour.Ordinary world) {marks : List Mark} {last : Text}
    (separated : Separated marks last)
    (registered : ∀ mark ∈ marks, mark.name ∈ world.registry.names) :
  List.Forall₂ (CalledAsRead world.registry (.ofList (marks.map Mark.name)))
    (marks.map Mark.name) (behaviour.callsOf (spell marks last) world)
  := by
  have sought := sought_spell reachable separated registered
  have plain : ∀ name ∈ NameSet.ofList (marks.map Mark.name),
      name ≠ [] ∧ ∀ c ∈ name, isDelimiter c = false := by
    intro name inside
    rw [← sought] at inside
    exact Registry.plain_of_mem_names reachable ((Registry.mem_sought_iff reachable).mp inside).1
  have named : ∀ mark ∈ marks, mark.name ∈ NameSet.ofList (marks.map Mark.name) := by
    intro mark inside
    exact NameSet.mem_ofList.mpr (List.mem_map_of_mem inside)
  have read := forall₂_readAs_items separated plain named
  rw [← sought] at read
  have unescaped := forall_mem_of_forall₂ (P := fun tag => tag.isEscaped = false) read (by
    rintro name tag ⟨short, rest, -, rfl⟩
    rfl)
  have called := forall₂_callsOf ordinary rfl unescaped
  apply (forall₂_comp read called).imp
  rintro name call ⟨tag, ⟨short, rest, readAs, rfl⟩, made⟩
  rw [sought] at readAs
  exact ⟨short, rest, readAs, made⟩

/-- In a text of tags that close themselves and have no attributes, one handler is called for
each tag: by the written name that the name of the tag is read as, with the rest of the name as
attributes.  All of them are called by the names of their tags, without attributes, exactly if
none of the written names hides another one. -/
theorem told_apart_iff (reachable : world.registry.Reachable)
    (ordinary : behaviour.Ordinary world) {marks : List Mark} {last : Text}
    (separated : Separated marks last)
    (registered : ∀ mark ∈ marks, mark.name ∈ world.registry.names) :
  let names := marks.map Mark.name
  let calls := behaviour.callsOf (spell marks last) world
  List.Forall₂ (CalledAsRead world.registry (.ofList names)) names calls
    ∧ (List.Forall₂ (CalledAsSelf world.registry) names calls
      ↔ ∀ name ∈ names, ∀ other ∈ names, ¬ Hides other name)
  := by
  intro names calls
  have called := calledAsRead_callsOf reachable ordinary separated registered
  use called
  apply forall₂_iff_of_forall₂ called
  intro name call made
  rw [made.calledAsSelf_iff]
  simp only [NameSet.mem_ofList]
  rfl

/-- Names that continue each other, one of them twice: none of them hides another one. -/
theorem told_apart_iff_of_hyphen :
  let world := selfNamed ["tag".toList, "tag-x".toList, "tags".toList]
  let marks : List Mark :=
    [⟨"x".toList, "tag-x".toList⟩, ⟨[], "tag".toList⟩, ⟨" ".toList, "tag-x".toList⟩]
  let names := marks.map Mark.name
  let calls := counting.callsOf (spell marks "y".toList) world
  world.registry.Reachable
    ∧ counting.Ordinary world
    ∧ Separated marks "y".toList
    ∧ (∀ mark ∈ marks, mark.name ∈ world.registry.names)
    ∧ List.Forall₂ (CalledAsRead world.registry (.ofList names)) names calls
    ∧ List.Forall₂ (CalledAsSelf world.registry) names calls
  := by
  intro world marks names calls
  have ordinary : counting.Ordinary world := ordinary_selfNamed (by decide +kernel)
  have separated : Separated marks "y".toList :=
    ⟨by decide, by decide, by decide, by decide⟩
  have registered : ∀ mark ∈ marks, mark.name ∈ world.registry.names := by decide +kernel
  have unhidden : ∀ name ∈ names, ∀ other ∈ names, ¬ Hides other name := by
    have continues : names.all (·.all isNameChar) := by decide +kernel
    intro name inside other _
    apply not_hides_of_isNameChar (List.all_eq_true.mp (List.all_eq_true.mp continues name inside))
  have told := told_apart_iff (reachable_selfNamed _) ordinary separated registered
  exact ⟨reachable_selfNamed _, ordinary, separated, registered, told.1, told.2.mpr unhidden⟩

/-- A name that another one hides: the handler of the other one is called for both. -/
theorem not_told_apart_of_dot :
  let world := selfNamed ["a".toList, "a.b".toList]
  let marks : List Mark := [⟨[], "a".toList⟩, ⟨[], "a.b".toList⟩]
  let calls := counting.callsOf (spell marks []) world
  world.registry.Reachable
    ∧ counting.Ordinary world
    ∧ Separated marks []
    ∧ (∀ mark ∈ marks, mark.name ∈ world.registry.names)
    ∧ calls
      = [.handler "a".toList (.positional []) none "a".toList,
        .handler "a".toList (.positional [".b".toList]) none "a".toList]
    ∧ ¬ List.Forall₂ (CalledAsSelf world.registry) (marks.map Mark.name) calls
  := by
  intro world marks calls
  have ordinary : counting.Ordinary world := ordinary_selfNamed (by decide +kernel)
  have made : calls
      = [.handler "a".toList (.positional []) none "a".toList,
        .handler "a".toList (.positional [".b".toList]) none "a".toList] := by
    have found : Text.items (Tag.read (world.registry.sought (spell marks [])).toList)
        (spell marks []) = [.closed "a".toList [], .closed "a".toList ".b".toList] := by
      decide +kernel
    have bound : world.registry.callable "a".toList = .ok "a".toList := by decide +kernel
    have parsed : Attributes.parse ".b".toList = .positional [".b".toList] := by decide +kernel
    have called := forall₂_callsOf ordinary found (by decide)
    change List.Forall₂ world.registry.Calls _ calls at called
    generalize calls = calls at called
    rcases called with _ | ⟨⟨handler, bound₁, rfl⟩, _ | ⟨⟨handler', bound₂, rfl⟩, ⟨⟩⟩⟩
    obtain rfl := Except.ok.inj (bound.symm.trans bound₁)
    obtain rfl := Except.ok.inj (bound.symm.trans bound₂)
    change [_, Invocation.handler _ (.parse ".b".toList) _ _] = _
    rw [parsed]
    rfl
  use reachable_selfNamed _, ordinary, ⟨by decide, by decide, by decide, by decide⟩,
    by decide +kernel, made
  rw [made]
  rintro (_ | ⟨-, _ | ⟨⟨handler, -, own⟩, -⟩⟩)
  injection own with _ attributes
  contradiction

end Behaviour

end Shortcode
