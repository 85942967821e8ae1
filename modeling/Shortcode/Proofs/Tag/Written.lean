import Shortcode.Proofs.Name.Hides
import Shortcode.Proofs.Tag.Found

/-!
# Reading written tags

A tag with a single opening bracket that is legible in front of a text is read there, if no
shorter name opens at its place (`read_render`).  Text without opening brackets is passed over,
so the tags of a text that is written tag by tag are found one after the other
(`items_written`).
-/

namespace Shortcode

/-- The attributes are set off by a space, contain no brackets, and do not end with a slash. -/
structure PlainAttributes (attributes : Text) : Prop where
  spaced : attributes = [] ∨ attributes.head? = some ' '
  unopened : '[' ∉ attributes
  unclosed : ']' ∉ attributes
  unslashed : attributes.getLast? ≠ some '/'

theorem PlainAttributes.delimiting {attributes : Text} (set : PlainAttributes attributes) :
  Delimiting attributes
  := by
  intro c first
  rcases set.spaced with rfl | spaced
  · contradiction
  · obtain rfl : ' ' = c := by simpa [spaced] using first
    decide

theorem closingMark_eq (name : Text) :
  closingMark name = '[' :: '/' :: (name ++ [']'])
  := rfl

namespace Tag

/-- The tag that closes itself, with single brackets. -/
def closed (name attributes : Text) : Tag := ⟨false, name, attributes, .selfClosing, false⟩

/-- The tag that encloses a content, with single brackets. -/
def enclosing (name attributes content : Text) : Tag :=
  ⟨false, name, attributes, .enclosing content, false⟩

theorem render_closed (name attributes : Text) :
  (closed name attributes).render = '[' :: (name ++ (attributes ++ ['/', ']']))
  := by simp [closed, render, core, opener, closer, Body.render]

theorem render_enclosing (name attributes content : Text) :
  (enclosing name attributes content).render
    = '[' :: (name ++ (attributes ++ ']' :: (content ++ closingMark name)))
  := by simp [enclosing, render, core, opener, closer, Body.render]

theorem legible_closed {name attributes rest : Text} (boundary : endsName attributes)
    (clean : ']' ∉ attributes) (single : rest.head? ≠ some ']') :
  (closed name attributes).Legible rest
  := by
  constructor
  · apply boundary
  · apply clean
  · intro other
    contradiction
  · intro content enclosed
    contradiction
  · intro bare
    contradiction
  · intro _
    apply single

theorem legible_enclosing {name attributes content rest : Text} (boundary : endsName attributes)
    (clean : ']' ∉ attributes) (unslashed : attributes.getLast? ≠ some '/')
    (first : Text.OnlyAtEnd (closingMark name) content) (single : rest.head? ≠ some ']') :
  (enclosing name attributes content).Legible rest
  := by
  constructor
  · apply boundary
  · apply clean
  · intro _
    apply unslashed
  · rintro _ ⟨⟩
    apply first
  · intro bare
    contradiction
  · intro _
    apply single

/-- What follows the attributes of a tag starts with a delimiter. -/
theorem delimiting_body_render (body : Body) (name rest : Text) :
  Delimiting (body.render name ++ rest)
  := by
  cases body with
  | selfClosing => apply delimiting_cons (by decide)
  | bare => apply delimiting_cons (by decide)
  | enclosing content => apply delimiting_cons (by decide)

/-- A tag whose attributes are set off from its name is named where it is written. -/
theorem namedIn_render {tag : Tag} (single : tag.doubledOpen = false)
    (delimiting : Delimiting tag.attributes) (rest : Text) :
  NamedIn tag.name (tag.render ++ rest)
  := by
  have named := namedIn_opening tag.name
    (delimiting.append (delimiting_body_render tag.body tag.name (tag.closer ++ rest)))
  simpa [render, core, opener, single] using named

variable {names : NameSet}

/-- Of several names that open, the shortest one is tried first. -/
theorem findSome?_readNamed {text rest : Text} {tag : Tag} {doubledOpen : Bool}
    (found : readNamed doubledOpen text tag.name = some (tag, rest)) (inside : tag.name ∈ names)
    (shortest : ∀ other ∈ names, Opens other text → tag.name.length ≤ other.length) :
  names.toList.findSome? (readNamed doubledOpen text) = some (tag, rest)
  := by
  have some_found : names.toList.findSome? (readNamed doubledOpen text) ≠ none := by
    intro none_found
    rw [List.findSome?_eq_none_iff.mp none_found tag.name inside] at found
    contradiction
  obtain ⟨first, first_found⟩ := Option.ne_none_iff_exists'.mp some_found
  obtain ⟨front, other, back, split, here, before⟩ := List.findSome?_eq_some_iff.mp first_found
  have member : other ∈ names := by
    rw [NameSet.mem_def, split]
    simp
  have opens : Opens other text := exists_readNamed_iff.mp ⟨first, here⟩
  have sorted := names.sorted
  rw [NameSet.mem_def, split, List.mem_append, List.mem_cons] at inside
  rcases inside with earlier | rfl | later
  · rw [before _ earlier] at found
    contradiction
  · rw [first_found, ← here, found]
  · rw [split, List.pairwise_append, List.pairwise_cons] at sorted
    have less := sorted.2.1.1 tag.name later
    have long := shortest other member opens
    obtain ⟨behind, whole, -⟩ := opens
    obtain ⟨behind', whole', -⟩ := exists_readNamed_iff.mp ⟨_, found⟩
    have begins : tag.name <+: other :=
      List.prefix_of_prefix_length_le ⟨behind', whole'.symm⟩ ⟨behind, whole.symm⟩ long
    apply absurd less (List.not_lt.mpr begins.le)

theorem readBehind_of_head?_ne {names : List Text} {text : Text}
    (other : text.head? ≠ some '[') :
  readBehind names text = names.findSome? (readNamed false text)
  := by
  unfold readBehind
  split
  · contradiction
  · rfl

/-- A legible tag with a single opening bracket is read, if no shorter name opens there. -/
theorem read_render {tag : Tag} {rest : Text} (single : tag.doubledOpen = false)
    (nonempty : tag.name ≠ []) (without : '[' ∉ tag.name) (legible : tag.Legible rest)
    (inside : tag.name ∈ names)
    (shortest : ∀ other ∈ names,
      Opens other (tag.name ++ (tag.attributes ++ tag.body.render tag.name ++ tag.closer ++ rest)) →
      tag.name.length ≤ other.length) :
  read names.toList (tag.render ++ rest) = some (tag, rest)
  := by
  have written :
      tag.render ++ rest = '[' :: (tag.name
        ++ (tag.attributes ++ tag.body.render tag.name ++ tag.closer ++ rest)) := by
    simp [render, core, opener, single]
  rw [written, read, readBehind_of_head?_ne]
  · apply findSome?_readNamed _ inside shortest
    apply readNamed_eq_some_iff.mpr
    refine ⟨single, rfl, ?_, legible⟩
    simp
  · obtain ⟨c, name, filled⟩ := List.exists_cons_of_ne_nil nonempty
    rw [filled, List.mem_cons, not_or] at without
    simpa [filled] using Ne.symm without.1

/-- A legible tag with a single opening bracket, whose name is delimited and hidden by none of
the names, is read. -/
theorem read_of_unhidden {tag : Tag} {rest : Text} (single : tag.doubledOpen = false)
    (nonempty : tag.name ≠ []) (plain : ∀ name ∈ names, ∀ c ∈ name, isDelimiter c = false)
    (legible : tag.Legible rest) (inside : tag.name ∈ names)
    (delimiting : Delimiting tag.attributes)
    (unhidden : ∀ other ∈ names, ¬ Hides other tag.name) :
  read names.toList (tag.render ++ rest) = some (tag, rest)
  := by
  have without := not_mem_of_plain (plain tag.name inside) (d := '[') (by decide)
  apply read_render single nonempty without legible inside
  intro other inside' opens
  have closes : ']' ∈ tag.body.render tag.name :=
    List.mem_of_getLast? (getLast?_body_render tag.body tag.name)
  have behind : Delimiting (tag.attributes ++ (tag.body.render tag.name ++ (tag.closer ++ rest))) :=
    delimiting.append (delimiting_body_render tag.body tag.name _)
  simp only [List.append_assoc] at opens
  rcases (opens_append_iff (plain other inside') behind (by simp [closes])).mp opens with
    rfl | hides
  · apply Nat.le_refl
  · apply absurd hides (unhidden other inside')

/-- A name of characters that continue names is opened by no shorter name. -/
theorem length_le_of_opens {name other behind : Text} (continues : ∀ c ∈ name, isNameChar c)
    (opens : Opens other (name ++ behind)) :
  name.length ≤ other.length
  := by
  obtain ⟨behind', whole, ends, -⟩ := opens
  rcases List.append_eq_append_iff.mp whole with ⟨middle, rfl, -⟩ | ⟨middle, rfl, rfl⟩
  · simp
  · cases middle with
    | nil => simp
    | cons c middle =>
      have continued := continues c (by simp)
      simp [endsName, continued] at ends

/-- A legible tag whose name consists of characters that continue names is read, whatever the
other names are. -/
theorem read_of_continues {tag : Tag} {rest : Text} (continues : ∀ c ∈ tag.name, isNameChar c)
    (nonempty : tag.name ≠ []) (legible : tag.Legible rest) (inside : tag.name ∈ names) :
  read names.toList (tag.render ++ rest) = some (tag, rest)
  := by
  have without : '[' ∉ tag.name :=
    not_mem_of_plain (fun c member => isDelimiter_of_isNameChar (continues c member)) (by decide)
  have shortest : ∀ other ∈ names,
      Opens other (tag.name ++ (tag.attributes ++ tag.body.render tag.name ++ tag.closer ++ rest)) →
      tag.name.length ≤ other.length := fun _ _ => length_le_of_opens continues
  cases doubled : tag.doubledOpen with
  | false => apply read_render doubled nonempty without legible inside shortest
  | true =>
    have written :
        tag.render ++ rest = '[' :: '[' :: (tag.name
          ++ (tag.attributes ++ tag.body.render tag.name ++ tag.closer ++ rest)) := by
      simp [render, core, opener, doubled]
    have named : readNamed true
        (tag.name ++ (tag.attributes ++ tag.body.render tag.name ++ tag.closer ++ rest)) tag.name
          = some (tag, rest) := by
      apply readNamed_eq_some_iff.mpr
      refine ⟨doubled, rfl, ?_, legible⟩
      simp
    rw [written, read, readBehind, findSome?_readNamed named inside shortest, Option.some_or]

/-- A tag that closes itself and has no attributes is read by the shortest of the names that is
its own or hides it. -/
theorem read_closed {name short rest behind : Text}
    (plain : ∀ name ∈ names, name ≠ [] ∧ ∀ c ∈ name, isDelimiter c = false)
    (named : name ∈ names) (readAs : ReadAs names name short rest)
    (single : behind.head? ≠ some ']') :
  read names.toList ((closed short rest).render ++ behind)
    = some (closed short rest, behind)
  := by
  have unopened := not_mem_of_plain (plain short readAs.member).2 (d := '[') (by decide)
  have unclosed : ']' ∉ rest := by
    have := not_mem_of_plain (plain name named).2 (d := ']') (by decide)
    rw [readAs.split, List.mem_append, not_or] at this
    apply this.2
  apply read_render rfl (plain short readAs.member).1 unopened
    (legible_closed readAs.ends unclosed single) readAs.member
  intro other inside opens
  apply readAs.shortest other inside
  have written :
      short ++ (rest ++ ['/', ']'] ++ [] ++ behind) = name ++ ('/' :: ']' :: behind) := by
    simp [readAs.split]
  change Opens other (short ++ (rest ++ ['/', ']'] ++ [] ++ behind)) at opens
  rw [written, opens_append_iff (plain other inside).2 (delimiting_cons (by decide) _) (by simp)]
    at opens
  apply opens

theorem read_eq_none_of_ne {names : List Text} {c : Char} (other : c ≠ '[') (text : Text) :
  read names (c :: text) = none
  := by
  unfold read
  split
  · simp_all
  · rfl

/-- Text without opening brackets is passed over. -/
theorem items_append_of_no_bracket {front : Text} (without : '[' ∉ front) (rest : Text) :
  Text.items (read names.toList) (front ++ rest) = Text.items (read names.toList) rest
  := by
  induction front with
  | nil => rfl
  | cons c front ih =>
    rw [List.mem_cons, not_or] at without
    rw [List.cons_append, Text.items_of_skip (read_eq_none_of_ne (Ne.symm without.1) _),
      ih without.2]

theorem items_of_no_bracket {text : Text} (without : '[' ∉ text) :
  Text.items (read names.toList) text = []
  := by
  have none := @items_append_of_no_bracket names text without []
  rwa [List.append_nil] at none

/-- Behind text without opening brackets, the tag that is read is the first one. -/
theorem items_written {front rest : Text} {tag : Tag} (without : '[' ∉ front)
    (found : read names.toList (tag.render ++ rest) = some (tag, rest)) :
  Text.items (read names.toList) (front ++ (tag.render ++ rest))
    = tag :: Text.items (read names.toList) rest
  := by
  rw [items_append_of_no_bracket without, Text.items_of_read tag.render_ne_nil found]

/-- A tag that is read where nothing follows is the only one of its written form. -/
theorem items_render {tag : Tag} (found : read names.toList (tag.render ++ []) = some (tag, [])) :
  Text.items (read names.toList) tag.render = [tag]
  := by
  have alone := Text.items_of_read tag.render_ne_nil found
  rw [List.append_nil] at alone
  apply alone

end Tag

end Shortcode
