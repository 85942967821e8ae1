import Shortcode.Proofs.Tag.Paired

/-!
# Tags between doubled brackets

Brackets around a tag make an escaped tag of it, whatever the tag is: one that closes itself, has
a content or stands bare, and one of which a side is doubled already.  Its own additional brackets
are then left outside.  In front of text without opening brackets the escaped tag is read as it is
written (`read_escaped`), and it is the only tag in text that has no other opening brackets
(`items_doubled`).
-/

namespace Shortcode

/-- In front of a delimiter and behind it, names stand apart. -/
theorem namedIn_append_cons_iff {name text rest : Text} {d : Char} (delimiter : isDelimiter d)
    (other : d ≠ '[') (plain : ∀ c ∈ name, isDelimiter c = false) :
  NamedIn name (text ++ d :: rest) ↔ NamedIn name text ∨ NamedIn name rest
  := by
  induction text with
  | nil =>
    have nothing : ¬ NamedIn name [] := not_namedIn_of_not_mem List.not_mem_nil
    rw [List.nil_append, namedIn_cons_iff]
    simp [other, nothing]
  | cons c text ih =>
    rw [List.cons_append, namedIn_cons_iff, namedIn_cons_iff, ih,
      delimited_append_cons_iff delimiter plain, or_assoc]

/-- A text that starts with a bracket does not start with a name. -/
theorem append_ne_bracket {name : Text} (nonempty : name ≠ []) (without : '[' ∉ name)
    (behind text : Text) :
  '[' :: text ≠ name ++ behind
  := by
  obtain ⟨c, name, rfl⟩ := List.exists_cons_of_ne_nil nonempty
  intro whole
  obtain ⟨rfl, -⟩ := List.cons_eq_cons.mp whole
  apply without List.mem_cons_self

namespace Tag

/-- The tag with both of its sides doubled. -/
def escaped (tag : Tag) : Tag := { tag with doubledOpen := true, doubledClose := true }

@[simp]
theorem isEscaped_escaped (tag : Tag) :
  tag.escaped.isEscaped
  := rfl

theorem render_escaped (tag : Tag) :
  tag.escaped.render = '[' :: (tag.core ++ [']'])
  := by simp [render, opener, closer, escaped, core]

theorem unescaped_escaped (tag : Tag) :
  tag.escaped.unescaped = tag.core
  := unescaped_of_isEscaped (isEscaped_escaped tag)

/-- A closing bracket behind a tag may as well stand in front of its own additional one. -/
theorem closer_append (tag : Tag) (rest : Text) :
  tag.closer ++ ']' :: rest = ']' :: (tag.closer ++ rest)
  := by
  rw [closer]
  split <;> rfl

theorem unopened_closer_append (tag : Tag) {rest : Text} (without : '[' ∉ rest) :
  '[' ∉ tag.closer ++ rest
  := by
  rw [closer]
  split <;> simpa using without

/-- An opening bracket in front of a tag may as well stand behind its own additional one. -/
theorem cons_opener (tag : Tag) (rest : Text) :
  '[' :: (tag.opener ++ rest) = tag.opener ++ '[' :: rest
  := by
  rw [opener]
  split <;> rfl

/-- Brackets around a tag make it escaped. -/
theorem doubled_eq (tag : Tag) (front rest : Text) :
  front ++ '[' :: (tag.render ++ ']' :: rest)
    = (front ++ tag.opener) ++ (tag.escaped.render ++ (tag.closer ++ rest))
  := by
  rw [render_escaped, render]
  simp only [List.append_assoc, List.cons_append, List.nil_append]
  rw [cons_opener, closer_append]

/-! ### Reading -/

/-- What follows an opening mark does not decide whether there is one. -/
theorem opens_append_iff_of_mem {name text : Text} (without : ']' ∉ name) (closed : ']' ∈ text)
    (rest : Text) :
  Opens name (text ++ rest) ↔ Opens name text
  := by
  constructor
  · rintro ⟨behind, whole, ends, -⟩
    rcases List.append_eq_append_iff.mp whole with ⟨more, rfl, -⟩ | ⟨inner, rfl, rfl⟩
    · apply absurd (List.mem_append_left more closed) without
    · have inside : ']' ∈ inner := (List.mem_append.mp closed).resolve_left without
      refine ⟨inner, rfl, ?_, inside⟩
      cases inner with
      | nil => contradiction
      | cons c inner => apply ends
  · intro opens
    apply opens.append rest

/-- A tag that is legible is legible with both sides doubled, in front of text without opening
brackets. -/
theorem Legible.escaped {tag : Tag} {behind rest : Text} (legible : tag.Legible behind)
    (without : '[' ∉ rest) :
  tag.escaped.Legible rest
  := by
  constructor
  · apply legible.boundary
  · apply legible.clean
  · apply legible.unslashed
  · apply legible.first
  · intro _ within
    have inside : '[' ∈ tag.escaped.closer ++ rest := within.subset List.mem_cons_self
    simp [closer, Tag.escaped, without] at inside
  · intro single
    contradiction

/-- A tag that is read is read behind its opening brackets. -/
theorem findSome?_of_read {names : List Text} {text rest : Text} {tag : Tag}
    (found : read names text = some (tag, rest)) :
  ∃ behind, text = tag.opener ++ '[' :: behind
    ∧ names.findSome? (readNamed tag.doubledOpen behind) = some (tag, rest)
  := by
  unfold read at found
  split at found
  · rename_i behind
    simp only [readBehind, Option.or_eq_some_iff] at found
    rcases found with doubled | ⟨-, single⟩
    · split at doubled
      · rename_i behind
        obtain ⟨name, -, here⟩ := List.exists_of_findSome?_eq_some doubled
        have side := (render_append_of_readNamed here).1
        use behind
        rw [side]
        exact ⟨by simp [opener, side], doubled⟩
      · contradiction
    · obtain ⟨name, -, here⟩ := List.exists_of_findSome?_eq_some single
      have side := (render_append_of_readNamed here).1
      use behind
      rw [side]
      exact ⟨by simp [opener, side], single⟩
  · contradiction

/-- Of the names that are tried, the one that makes a tag makes the escaped tag as well. -/
theorem findSome?_readNamed_escaped {names : List Text} (plain : ∀ name ∈ names, ']' ∉ name)
    {doubledOpen : Bool} {text rest : Text} {tag : Tag}
    (found : names.findSome? (readNamed doubledOpen text) = some (tag, []))
    (without : '[' ∉ rest) :
  names.findSome? (readNamed true (text ++ ']' :: rest))
    = some (tag.escaped, tag.closer ++ rest)
  := by
  obtain ⟨front, name, back, rfl, here, before⟩ := List.findSome?_eq_some_iff.mp found
  obtain ⟨rfl, rfl, whole, legible⟩ := readNamed_eq_some_iff.mp here
  have closed : ']' ∈ text := by
    have last : ']' ∈ tag.body.render tag.name :=
      List.mem_of_getLast? (getLast?_body_render tag.body tag.name)
    simp [whole, last]
  apply List.findSome?_eq_some_iff.mpr
  refine ⟨front, tag.name, back, rfl, ?here, ?before⟩
  case here =>
    apply readNamed_eq_some_iff.mpr
    refine ⟨rfl, rfl, ?_, legible.escaped (unopened_closer_append tag without)⟩
    rw [whole]
    simp only [List.append_assoc, List.nil_append, closer_append]
    rfl
  case before =>
    intro other inside
    have declined := before other inside
    have unclosed : ']' ∉ other := plain other (List.mem_append_left _ inside)
    rwa [readNamed_eq_none_iff, ← opens_append_iff_of_mem unclosed closed (']' :: rest),
      ← @readNamed_eq_none_iff true] at declined

/-- A tag that makes up a text is read as an escaped tag if brackets are put around it, in front
of text without opening brackets. -/
theorem read_escaped {names : List Text} (plain : ∀ name ∈ names, ∀ c ∈ name, isDelimiter c = false)
    {text rest : Text} {tag : Tag} (found : read names text = some (tag, [])) (without : '[' ∉ rest) :
  read names (tag.escaped.render ++ (tag.closer ++ rest))
    = some (tag.escaped, tag.closer ++ rest)
  := by
  obtain ⟨behind, whole, first⟩ := findSome?_of_read found
  have written : '[' :: behind = tag.core ++ tag.closer := by
    apply @List.append_cancel_left _ tag.opener
    rw [← whole, render_append_of_read found, render, List.append_nil, List.append_assoc]
  have split : tag.escaped.render ++ (tag.closer ++ rest)
      = '[' :: '[' :: (behind ++ ']' :: rest) := by
    calc tag.escaped.render ++ (tag.closer ++ rest)
        = '[' :: (tag.core ++ ']' :: (tag.closer ++ rest)) := by simp [render_escaped]
      _ = '[' :: ((tag.core ++ tag.closer) ++ ']' :: rest) := by
        rw [List.append_assoc, closer_append]
      _ = '[' :: '[' :: (behind ++ ']' :: rest) := by
        rw [← written]
        rfl
  have unclosed : ∀ name ∈ names, ']' ∉ name := by
    intro name inside
    apply not_mem_of_plain (plain name inside) (by decide)
  rw [split, read, readBehind, findSome?_readNamed_escaped unclosed first without, Option.some_or]

/-- At three opening brackets in a row no tag is read. -/
theorem read_eq_none_of_brackets {names : List Text}
    (plain : ∀ name ∈ names, name ≠ [] ∧ '[' ∉ name) (text : Text) :
  read names ('[' :: '[' :: '[' :: text) = none
  := by
  have closed : ∀ name ∈ names, ∀ text, ¬ Opens name ('[' :: text) := by
    rintro name inside text ⟨behind, whole, -⟩
    obtain ⟨nonempty, without⟩ := plain name inside
    exact append_ne_bracket nonempty without behind text whole
  rw [read_eq_none_iff]
  intro name inside
  use closed name inside _
  rintro text' ⟨⟩
  apply closed name inside

/-! ### Tags that make up a text -/

/-- The only tag of a scan, from the first character to the last, is read from the whole text. -/
theorem read_of_alone {names : NameSet} {text : Text} {occurrence : Occurrence}
    (alone : scan names text = [occurrence]) (first : occurrence.start = 0)
    (last : occurrence.stop = text.length) :
  read names.toList text = some (occurrence.tag, [])
  := by
  have inside : occurrence ∈ scan names text := by
    rw [alone]
    apply List.mem_singleton_self
  obtain ⟨front, rest, rfl, place, found⟩ := read_of_mem_scan inside
  rw [Occurrence.stop, List.length_append, List.length_append] at last
  obtain rfl : front = [] := List.eq_nil_of_length_eq_zero (by omega)
  obtain rfl : rest = [] := List.eq_nil_of_length_eq_zero (by omega)
  simpa using found

section Doubled

variable {names : NameSet} (plain : ∀ name ∈ names, name ≠ [] ∧ ∀ c ∈ name, isDelimiter c = false)

include plain

/-- In front of the brackets of an escaped tag another opening bracket is passed over. -/
theorem read_bracket_escaped (tag : Tag) (rest : Text) :
  read names.toList ('[' :: (tag.escaped.render ++ rest)) = none
  := by
  apply read_eq_none_of_brackets
  intro name inside
  obtain ⟨nonempty, plain⟩ := plain name inside
  exact ⟨nonempty, not_mem_of_plain plain (by decide)⟩

theorem items_opener_append (tag : Tag) (rest : Text) :
  Text.items (read names.toList) (tag.opener ++ (tag.escaped.render ++ rest))
    = Text.items (read names.toList) (tag.escaped.render ++ rest)
  := by
  rw [opener]
  split
  · apply Text.items_of_skip (read_bracket_escaped plain tag rest)
  · rfl

theorem fill_opener_append (tag : Tag) (rest : Text) (texts : List Text) :
  fill (pieces names (tag.opener ++ (tag.escaped.render ++ rest))) texts
    = tag.opener ++ fill (pieces names (tag.escaped.render ++ rest)) texts
  := by
  rw [opener]
  split
  · apply fill_pieces_of_skip (read_bracket_escaped plain tag rest)
  · rfl

variable {text front rest : Text} {tag : Tag} (found : read names.toList text = some (tag, []))
  (before : '[' ∉ front) (behind : '[' ∉ rest)

include found before behind

/-- With brackets around it, the tag of a text is the only one, and it is escaped. -/
theorem items_doubled :
  Text.items (read names.toList) (front ++ '[' :: (text ++ ']' :: rest)) = [tag.escaped]
  := by
  have read := read_escaped (fun name inside => (plain name inside).2) found behind
  rw [render_append_of_read found, List.append_nil, doubled_eq, List.append_assoc,
    items_append_of_no_bracket before, items_opener_append plain,
    Text.items_of_read tag.escaped.render_ne_nil read, items_of_no_bracket]
  apply unopened_closer_append tag behind

/-- With the escaped tag replaced by the tag without additional brackets, the brackets around the
tag are gone. -/
theorem fill_doubled :
  fill (pieces names (front ++ '[' :: (text ++ ']' :: rest))) [tag.core] = front ++ text ++ rest
  := by
  have read := read_escaped (fun name inside => (plain name inside).2) found behind
  have last := @fill_pieces_append names _ (unopened_closer_append tag behind) [] []
  rw [List.append_nil] at last
  rw [render_append_of_read found, List.append_nil, doubled_eq, List.append_assoc,
    fill_pieces_append before, fill_opener_append plain, fill_pieces_of_read read, last, render]
  simp [pieces, locate, fill]

end Doubled

end Tag

end Shortcode
