import Shortcode.Proofs.Registry.History
import Shortcode.Proofs.Tag.Contains
import Shortcode.Proofs.Tag.Forest
import Shortcode.Proofs.Tag.Paired

/-!
# Tags at any depth

A nest stands for a text with a tag that closes itself at its core, and pairs of opening and
closing marks around it.  Where marks of one name are inside each other, the first closing mark cuts
an outer tag short, so the contents of the tags that are read need not be nests.  But each of them,
like the whole text, starts with the nest up to its core, since no closing mark begins before that
(`Nest.freeOf_front`).  So the tag at the core is contained in the text
(`Registry.hasShortcode_sound_and_deep`).
-/

namespace Shortcode

/-- Texts around a tag, with marks of names around them. -/
inductive Nest where
  /-- The tag, between two texts. -/
  | core (before behind : Text)
  /-- Marks of a name around a nest, between two texts. -/
  | within (before outer : Text) (inner : Nest) (behind : Text)
  deriving Repr

namespace Nest

/-- The written form of a nest, given the name of the tag. -/
def render (name : Text) : Nest → Text
  | core before behind => before ++ '[' :: name ++ ['/', ']'] ++ behind
  | within before outer inner behind =>
    before ++ '[' :: outer ++ [']'] ++ inner.render name ++ ['[', '/'] ++ outer ++ [']'] ++ behind

/-- Texts have no brackets, and the names of the marks are among the given ones. -/
inductive WellFormed (names : NameSet) : Nest → Prop where
  | core {before behind : Text} (first : Unbracketed before) (last : Unbracketed behind) :
    WellFormed names (core before behind)
  | within {before outer behind : Text} {inner : Nest} (first : Unbracketed before)
    (named : outer ∈ names) (inside : WellFormed names inner) (last : Unbracketed behind) :
    WellFormed names (within before outer inner behind)

/-- The written form up to the tag and with it. -/
def front (name : Text) : Nest → Text
  | core before _ => before ++ (Tag.closed name []).render
  | within before outer inner _ => before ++ ('[' :: (outer ++ [']']) ++ inner.front name)

/-- The written form behind the tag. -/
def back : Nest → Text
  | core _ behind => behind
  | within _ outer inner behind => inner.back ++ (closingMark outer ++ behind)

theorem front_append_back (name : Text) (nest : Nest) :
  nest.front name ++ nest.back = nest.render name
  := by
  induction nest with
  | core before behind => simp [front, back, render, Tag.render_closed]
  | within before outer inner behind ih => simp [front, back, render, closingMark, ← ih]

variable {names : NameSet} {nest : Nest} {name : Text}

/-- No closing bracket follows the tag. -/
theorem head?_back_ne (wellFormed : nest.WellFormed names) :
  nest.back.head? ≠ some ']'
  := by
  induction wellFormed with
  | @core before behind _ last =>
    have start := @Text.head?_append_ne _ _ [] last.unclosed (by simp)
    rwa [List.append_nil] at start
  | @within before outer behind inner _ _ _ _ ih =>
    rw [back]
    cases split : inner.back with
    | nil => simp [closingMark]
    | cons c rest => simpa [split] using ih

/-- A nest does not start with a closing bracket. -/
theorem head?_front_append_ne (wellFormed : nest.WellFormed names) (name rest : Text) :
  (nest.front name ++ rest).head? ≠ some ']'
  := by
  cases wellFormed with
  | core first _ =>
    rw [front, List.append_assoc]
    apply Text.head?_append_ne first.unclosed
    simp [Tag.render_closed]
  | within first _ _ _ =>
    rw [front, List.append_assoc]
    apply Text.head?_append_ne first.unclosed
    simp

/-- Up to the tag and with it, no closing mark begins. -/
theorem freeOf_front (wellFormed : nest.WellFormed names)
    (plain : ∀ name ∈ names, name ≠ [] ∧ ∀ c ∈ name, isDelimiter c = false)
    (named : name ∈ names) (mark : Text) :
  Text.FreeOf (closingMark mark) (nest.front name)
  := by
  induction wellFormed with
  | core first _ =>
    apply (Text.freeOf_of_not_mem first.unopened _).append
    rw [Tag.render_closed]
    apply freeOf_closingMark_opening (plain name named).1 (plain name named).2
    decide
  | within first named' _ _ ih =>
    apply (Text.freeOf_of_not_mem first.unopened _).append
    apply Text.FreeOf.append _ ih
    apply freeOf_closingMark_opening (plain _ named').1 (plain _ named').2
    decide

end Nest

namespace Tag

/-! ### Reading at an opening mark -/

variable {tag : Tag} {name rest behind : Text}

/-- A tag has a single opening bracket, if no second one stands at the start of its written form. -/
theorem eq_of_single {text : Text} (other : text.head? ≠ some '[')
    (whole : '[' :: text = tag.render ++ behind) :
  text = tag.name ++ tag.attributes ++ (tag.body.render tag.name ++ (tag.closer ++ behind))
  := by
  cases doubled : tag.doubledOpen with
  | true =>
    rw [render, opener, if_pos doubled, core] at whole
    obtain ⟨-, rfl⟩ := List.cons_eq_cons.mp whole
    contradiction
  | false => simpa [render, core, opener, doubled] using whole

/-- A tag whose attributes end with an opening mark stands bare, or has its content behind that
mark. -/
theorem cases_of_opening (unclosed : ']' ∉ name) (unslashed : '/' ∉ name)
    (clean : ']' ∉ tag.name ++ tag.attributes) (single : rest.head? ≠ some ']')
    (whole : name ++ ']' :: rest
      = tag.name ++ tag.attributes ++ (tag.body.render tag.name ++ (tag.closer ++ behind))) :
  behind = rest ∨ ∃ content, tag.content? = some content
    ∧ rest = content ++ closingMark tag.name ++ (tag.closer ++ behind)
  := by
  cases body : tag.body with
  | selfClosing =>
    have slashed : name ++ ']' :: rest
        = tag.name ++ tag.attributes ++ ['/'] ++ ']' :: (tag.closer ++ behind) := by
      simpa [body, Body.render] using whole
    obtain ⟨rfl, -⟩ := Text.eq_of_append_cons_eq unclosed (by simpa using clean) slashed
    simp at unslashed
  | bare =>
    left
    have marked : name ++ ']' :: rest
        = tag.name ++ tag.attributes ++ ']' :: (tag.closer ++ behind) := by
      simpa [body, Body.render] using whole
    obtain ⟨-, rfl⟩ := Text.eq_of_append_cons_eq unclosed clean marked
    cases close : tag.doubledClose with
    | false => simp [closer, close]
    | true => simp [closer, close] at single
  | enclosing content =>
    right
    have marked : name ++ ']' :: rest = tag.name ++ tag.attributes
        ++ ']' :: (content ++ closingMark tag.name ++ (tag.closer ++ behind)) := by
      simpa [body, Body.render] using whole
    obtain ⟨-, split⟩ := Text.eq_of_append_cons_eq unclosed clean marked
    use content
    constructor
    · rw [content?, body]
    · apply split

/-- At an opening mark a tag is read that stands bare, or whose content starts behind the mark. -/
theorem exists_read_opening {names : NameSet}
    (plain : ∀ name ∈ names, name ≠ [] ∧ ∀ c ∈ name, isDelimiter c = false) (named : name ∈ names)
    (single : rest.head? ≠ some ']') :
  ∃ tag behind, read names.toList (tag.render ++ behind) = some (tag, behind)
    ∧ '[' :: (name ++ ']' :: rest) = tag.render ++ behind
    ∧ (behind = rest ∨ ∃ content, tag.content? = some content
      ∧ rest = content ++ closingMark tag.name ++ (tag.closer ++ behind))
  := by
  have undelimited := (plain name named).2
  have unopened := not_mem_of_plain undelimited (d := '[') (by decide)
  have opens : read names.toList ('[' :: (name ++ ']' :: rest)) ≠ none := by
    intro declined
    rw [read_pair_eq_none_iff (fun other inside => (plain other inside).2) unopened] at declined
    apply declined name named (.inl rfl)
  obtain ⟨⟨tag, behind⟩, found⟩ := Option.ne_none_iff_exists'.mp opens
  have whole := render_append_of_read found
  have clean : ']' ∉ tag.name ++ tag.attributes := by
    rw [List.mem_append, not_or]
    constructor
    · apply not_mem_of_plain (plain tag.name (name_mem_of_read found)).2 (by decide)
    · apply (legible_of_read found).clean
  rw [whole] at found
  use tag, behind, found, whole
  have written := eq_of_single (Text.head?_append_ne unopened (by simp)) whole
  apply cases_of_opening _ _ clean single written
  · apply not_mem_of_plain undelimited (by decide)
  · apply not_mem_of_plain undelimited (by decide)

end Tag

namespace Nest

variable {names : NameSet} {nest : Nest} {name : Text}

/-- The tag of a nest is contained in every text that starts with the nest up to that tag. -/
theorem containsTag_front (wellFormed : nest.WellFormed names)
    (plain : ∀ name ∈ names, name ≠ [] ∧ ∀ c ∈ name, isDelimiter c = false)
    (named : name ∈ names) (continues : ∀ c ∈ name, isNameChar c) {rest : Text}
    (single : rest.head? ≠ some ']') :
  containsTag names name (nest.front name ++ rest)
  := by
  induction wellFormed generalizing rest with
  | @core before _ first _ =>
    have legible : (Tag.closed name []).Legible rest := Tag.legible_closed rfl (by simp) single
    have found := Tag.read_of_continues continues (plain name named).1 legible named
    rw [front, List.append_assoc, containsTag_written_iff first.unopened found]
    left
    rfl
  | @within before outer after inner first named' wellFormed _ ih =>
    have split : (within before outer inner after).front name ++ rest
        = before ++ '[' :: (outer ++ ']' :: (inner.front name ++ rest)) := by simp [front]
    obtain ⟨tag, behind, found, written, cut⟩ :=
      Tag.exists_read_opening plain named' (head?_front_append_ne wellFormed name rest)
    rw [split, written, containsTag_written_iff first.unopened found]
    right
    rcases cut with rfl | ⟨content, enclosed, whole⟩
    · right
      apply ih single
    · left
      -- The content is cut short by the first closing mark, but not before the tag at the core.
      obtain ⟨rest', rfl⟩ := freeOf_front wellFormed plain named tag.name whole
      use inner.front name ++ rest', enclosed
      apply ih
      rw [List.append_assoc, List.append_assoc, List.append_cancel_left_eq] at whole
      rw [whole] at single
      cases rest' with
      | nil => simp
      | cons c rest' => simpa using single

end Nest

/-- If a text contains a shortcode, then the shortcode is registered, and its name stands behind an
opening bracket and in front of a character that does not continue it, with a closing bracket at
that character or behind it.  A registered shortcode whose name consists of characters of names is
contained in every nest of its tag, whatever the names of the marks around it. -/
theorem Registry.hasShortcode_sound_and_deep {H : Type} (registry : Registry H) (name : Text) :
  (∀ text, registry.hasShortcode text name →
      registry.has name
        ∧ ∃ front c behind, text = front ++ '[' :: (name ++ c :: behind)
          ∧ isWord c = false ∧ c ≠ '-' ∧ ']' ∈ c :: behind)
    ∧ (registry.Reachable → registry.has name → (∀ c ∈ name, isNameChar c) →
      ∀ nest : Nest, nest.WellFormed registry.names →
        registry.hasShortcode (nest.render name) name)
  := by
  constructor
  · intro text present
    obtain ⟨known, contained⟩ := hasShortcode_iff.mp present
    use known
    apply (opensIn_of_containsTag contained).exists_eq
  · intro reachable known continues nest wellFormed
    have plain : ∀ name ∈ registry.names, name ≠ [] ∧ ∀ c ∈ name, isDelimiter c = false := by
      intro name
      apply plain_of_mem_names reachable
    have named : name ∈ registry.names := mem_names.mpr (Entries.has_iff_mem_keys.mp known)
    apply hasShortcode_iff.mpr
    use known
    rw [← nest.front_append_back name]
    apply nest.containsTag_front wellFormed plain named continues (Nest.head?_back_ne wellFormed)

/-- A tag inside marks of its own name, which stand in each other, and marks of a name that is read
as another one. -/
theorem Registry.hasShortcode_sound_and_deep_of_repeated :
  let registry : Registry Text := empty.run
    [.registerUnder ["a".toList, "a.b".toList, "b".toList] (.handler "x".toList)]
  let name := "b".toList
  let nest : Nest :=
    .within "x".toList "b".toList
      (.within [] "a.b".toList (.within "/".toList "b".toList (.core [] "y".toList) []) "b".toList)
      []
  registry.hasShortcode (nest.render name) name
    ∧ registry.Reachable
    ∧ registry.has name
    ∧ (∀ c ∈ name, isNameChar c)
    ∧ nest.WellFormed registry.names
    ∧ ∃ front c behind, nest.render name = front ++ '[' :: (name ++ c :: behind)
      ∧ isWord c = false ∧ c ≠ '-' ∧ ']' ∈ c :: behind
  := by
  intro registry name nest
  have reachable : registry.Reachable := reachable_run .empty _
  have known : registry.has name := by decide +kernel
  have continues : ∀ c ∈ name, isNameChar c := List.all_eq_true.mp (by decide)
  have none : Unbracketed [] := ⟨by decide, by decide⟩
  have b : "b".toList ∈ registry.names := by decide +kernel
  have dotted : "a.b".toList ∈ registry.names := by decide +kernel
  have wellFormed : nest.WellFormed registry.names :=
    .within ⟨by decide, by decide⟩ b
      (.within none dotted
        (.within ⟨by decide, by decide⟩ b (.core none ⟨by decide, by decide⟩) none)
        ⟨by decide, by decide⟩)
      none
  obtain ⟨sound, deep⟩ := hasShortcode_sound_and_deep registry name
  have present := deep reachable known continues nest wellFormed
  use present, reachable, known, continues, wellFormed
  apply (sound _ present).2

end Shortcode
