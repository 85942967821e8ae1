import Shortcode.Proofs.Tag.Places

/-!
# What a search finds

The tags that a search finds are what the grammar of tags says they are, at the places where
they stand (`Occurrence.WellPlaced`), and nothing is missed: no opening mark is left outside
of them, and each of them takes up as much of the text as it can (`Occurrence.Exhaustive`).
-/

namespace Shortcode

namespace Occurrence

/-- The place behind the name of the tag. -/
def nameStop (occurrence : Occurrence) : Nat :=
  occurrence.start + occurrence.tag.opener.length + 1 + occurrence.tag.name.length

/-- The place behind the opening mark of a tag that does not close itself. -/
def openingStop (occurrence : Occurrence) : Nat :=
  occurrence.nameStop + occurrence.tag.attributes.length + 1

/-- What holds of a tag that is found in a text by one of the given names. -/
structure WellPlaced (names : NameSet) (text : Text) (occurrence : Occurrence) : Prop where
  start_lt_stop : occurrence.start < occurrence.stop
  stop_le : occurrence.stop ≤ text.length
  text_eq : occurrence.text = text.slice occurrence.start occurrence.stop
  /-- The tag is written as its parts say. -/
  written : occurrence.text
    = ['['] ++ (if occurrence.tag.doubledOpen then ['['] else [])
      ++ occurrence.tag.name ++ occurrence.tag.attributes
      ++ (if occurrence.tag.isSelfClosing then ['/', ']']
        else ']' :: match occurrence.tag.content? with
          | some content => content ++ ['[', '/'] ++ occurrence.tag.name ++ [']']
          | none => [])
      ++ (if occurrence.tag.doubledClose then [']'] else [])
  name_mem : occurrence.tag.name ∈ names
  /-- The character behind the name does not continue it. -/
  boundary : ∃ c, text[occurrence.nameStop]? = some c ∧ isWord c = false ∧ c ≠ '-'
  /-- The attributes do not close the opening mark. -/
  clean : ']' ∉ occurrence.tag.attributes
  /-- The attributes do not end with the slash of a tag that closes itself. -/
  unslashed : occurrence.tag.isSelfClosing = false →
    occurrence.tag.attributes.getLast? ≠ some '/'
  /-- A tag that closes itself has no content. -/
  empty : occurrence.tag.isSelfClosing → occurrence.tag.content? = none
  /-- The closing mark of a tag is the first one behind its opening mark. -/
  first : ∀ content, occurrence.tag.content? = some content →
    Text.OnlyAtEnd (closingMark occurrence.tag.name) content

/-- A tag that is found in a text takes up as much of it as the grammar of tags allows. -/
structure Exhaustive (text : Text) (occurrence : Occurrence) : Prop where
  /-- Behind an opening mark with no content there is no closing mark. -/
  content : occurrence.tag.isSelfClosing = false → occurrence.tag.content? = none →
    ¬ closingMark occurrence.tag.name <:+: text.drop occurrence.openingStop
  doubledClose : occurrence.tag.doubledClose = false → text[occurrence.stop]? ≠ some ']'
  doubledOpen : occurrence.tag.doubledOpen = false →
    occurrence.start = 0 ∨ text[occurrence.start - 1]? ≠ some '['

end Occurrence

namespace Tag

variable {names : NameSet}

theorem body_eq_bare {tag : Tag} (open' : tag.isSelfClosing = false)
    (empty : tag.content? = none) :
  tag.body = .bare
  := by
  cases body : tag.body with
  | selfClosing => simp [isSelfClosing, body] at open'
  | bare => rfl
  | enclosing content => simp [content?, body] at empty

theorem body_of_content? {tag : Tag} {content : Text} (h : tag.content? = some content) :
  tag.body = .enclosing content
  := by
  cases body : tag.body with
  | selfClosing => simp [content?, body] at h
  | bare => simp [content?, body] at h
  | enclosing content' => simpa [content?, body] using h

/-- The written form of a tag, with its body in terms of what it encloses. -/
theorem render_eq (tag : Tag) :
  tag.render
    = ['['] ++ (if tag.doubledOpen then ['['] else []) ++ tag.name ++ tag.attributes
      ++ (if tag.isSelfClosing then ['/', ']']
        else ']' :: match tag.content? with
          | some content => content ++ ['[', '/'] ++ tag.name ++ [']']
          | none => [])
      ++ (if tag.doubledClose then [']'] else [])
  := by
  obtain ⟨doubledOpen, name, attributes, body, doubledClose⟩ := tag
  cases body with
  | selfClosing =>
    cases doubledOpen <;> simp [render, core, opener, closer, isSelfClosing, Body.render]
  | bare =>
    cases doubledOpen <;>
      simp [render, core, opener, closer, isSelfClosing, content?, Body.render]
  | enclosing content =>
    cases doubledOpen <;>
      simp [render, core, opener, closer, isSelfClosing, content?, Body.render, closingMark]

theorem getLast?_body_render (body : Body) (name : Text) :
  (body.render name).getLast? = some ']'
  := by
  cases body with
  | selfClosing => rfl
  | bare => rfl
  | enclosing content => simp [Body.render, closingMark, List.getLast?_cons]

/-- A tag ends with a closing bracket. -/
theorem getLast?_render (tag : Tag) :
  tag.render.getLast? = some ']'
  := by
  have body := getLast?_body_render tag.body tag.name
  cases close : tag.doubledClose with
  | true => simp [render, closer, close]
  | false => simp [render, core, closer, close, List.getLast?_cons, List.getLast?_append, body]

/-- What stands behind the name of an occurrence. -/
theorem drop_nameStop {front rest : Text} {occurrence : Occurrence}
    (place : occurrence.start = front.length) :
  (front ++ occurrence.text ++ rest).drop occurrence.nameStop
    = occurrence.tag.attributes ++ occurrence.tag.body.render occurrence.tag.name
      ++ (occurrence.tag.closer ++ rest)
  := by
  have split :
    front ++ occurrence.text ++ rest
      = (front ++ occurrence.tag.opener ++ ['['] ++ occurrence.tag.name)
        ++ (occurrence.tag.attributes ++ occurrence.tag.body.render occurrence.tag.name
          ++ (occurrence.tag.closer ++ rest))
    := by simp [Occurrence.text, render, core]
  rw [split]
  apply List.drop_left'
  simp only [List.length_append, List.length_singleton, Occurrence.nameStop, place]

/-- What stands behind the opening mark of an occurrence with no content. -/
theorem drop_openingStop {front rest : Text} {occurrence : Occurrence}
    (place : occurrence.start = front.length) (bare : occurrence.tag.body = .bare) :
  (front ++ occurrence.text ++ rest).drop occurrence.openingStop = occurrence.tag.closer ++ rest
  := by
  rw [Occurrence.openingStop, Nat.add_assoc, ← List.drop_drop, drop_nameStop place, bare]
  apply List.drop_left'
  simp [Body.render]

/-- A text in which a name ends begins with a character that does not continue the name. -/
theorem exists_of_endsName {text : Text} (ends : endsName text) (nonempty : text ≠ []) :
  ∃ c, text.head? = some c ∧ isWord c = false ∧ c ≠ '-'
  := by
  cases text with
  | nil => contradiction
  | cons c text =>
    simp only [endsName, isNameChar, Bool.not_eq_true', Bool.or_eq_false_iff, beq_eq_false_iff_ne]
      at ends
    exact ⟨c, rfl, ends.2, ends.1⟩

/-- Where a tag is legible, an opening mark of its name stands. -/
theorem Legible.opens {rest : Text} {tag : Tag} (legible : tag.Legible rest) :
  Opens tag.name (tag.name ++ tag.attributes ++ tag.body.render tag.name ++ tag.closer ++ rest)
  := by
  apply (@exists_readNamed_iff tag.doubledOpen _ _).mp
  use (tag, rest)
  apply readNamed_eq_some_iff.mpr ⟨rfl, rfl, rfl, legible⟩

/-! ### What is found -/

theorem wellPlaced_of_mem_scan {text : Text} {occurrence : Occurrence}
    (inside : occurrence ∈ scan names text) :
  occurrence.WellPlaced names text
  := by
  obtain ⟨front, rest, rfl, place, found⟩ := read_of_mem_scan inside
  have legible := legible_of_read found
  have stop : occurrence.stop = front.length + occurrence.text.length := by
    rw [Occurrence.stop, place]
  constructor
  · have := List.length_pos_iff.mpr occurrence.tag.render_ne_nil
    rw [stop, place, Occurrence.text]
    omega
  · rw [stop]
    simp
  · rw [stop, place, Text.slice_append]
  · apply render_eq occurrence.tag
  · apply name_mem_of_read found
  · have ends := endsName_render occurrence.tag (occurrence.tag.closer ++ rest)
    rw [legible.boundary, ← drop_nameStop place] at ends
    rw [← List.head?_drop]
    apply exists_of_endsName ends
    rw [drop_nameStop place]
    cases body : occurrence.tag.body <;> simp [Body.render]
  · apply legible.clean
  · intro open'
    apply legible.unslashed
    intro closes
    simp [isSelfClosing, closes] at open'
  · intro closes
    have body : occurrence.tag.body = .selfClosing := by simpa [isSelfClosing] using closes
    simp [content?, body]
  · intro content enclosed
    apply legible.first
    apply body_of_content? enclosed

/-- The last character of an occurrence is a closing bracket. -/
theorem getElem?_stop_sub_one {text : Text} {occurrence : Occurrence}
    (inside : occurrence ∈ scan names text) :
  text[occurrence.stop - 1]? = some ']'
  := by
  obtain ⟨front, rest, rfl, place, _⟩ := read_of_mem_scan inside
  have last := getLast?_render occurrence.tag
  have long := List.length_pos_iff.mpr occurrence.tag.render_ne_nil
  rw [List.getLast?_eq_getElem?] at last
  rw [Occurrence.stop, place, Occurrence.text, List.append_assoc,
    List.getElem?_append_right (by omega), List.getElem?_append_left (by omega)]
  convert last using 2
  omega

/-- A doubled opening bracket belongs to the tag behind it. -/
theorem getElem?_start_sub_one {text : Text} {occurrence : Occurrence}
    (inside : occurrence ∈ scan names text) (single : occurrence.tag.doubledOpen = false)
    (later : occurrence.start ≠ 0) :
  text[occurrence.start - 1]? ≠ some '['
  := by
  intro bracket
  have apart : ∀ other ∈ scan names text,
      occurrence.start - 1 < other.start ∨ other.stop ≤ occurrence.start - 1 := by
    intro other inside'
    rcases eq_or_apart_of_mem_scan inside inside' with rfl | before | behind
    · omega
    · have := (wellPlaced_of_mem_scan inside).start_lt_stop
      omega
    · by_contra touching
      have meet : other.stop - 1 = occurrence.start - 1 := by omega
      have close := getElem?_stop_sub_one inside'
      rw [meet, bracket] at close
      simp at close
  obtain ⟨front, rest, rfl, place, found⟩ := read_of_mem_scan inside
  obtain rfl | ⟨front, c, rfl⟩ := List.eq_nil_or_concat front
  · apply later place
  · have opens := (legible_of_read found).opens
    simp only [List.concat_eq_append, List.length_append, List.length_singleton] at place
    simp only [List.concat_eq_append, List.append_assoc, List.singleton_append] at bracket apart
    rw [place, Nat.add_sub_cancel] at bracket apart
    obtain rfl : c = '[' := by simpa using bracket
    have declined := read_eq_none_of_outside (by simp) apart
    apply (read_eq_none_iff.mp declined _ (name_mem_of_read found)).2 _ _ opens
    simp [Occurrence.text, render, core, opener, single]

theorem exhaustive_of_mem_scan {text : Text} {occurrence : Occurrence}
    (inside : occurrence ∈ scan names text) :
  occurrence.Exhaustive text
  := by
  obtain ⟨front, rest, whole, place, found⟩ := read_of_mem_scan inside
  have legible := legible_of_read found
  have stop : occurrence.stop = (front ++ occurrence.text).length := by
    rw [Occurrence.stop, place, List.length_append]
  constructor
  · intro open' empty
    have bare := body_eq_bare open' empty
    rw [whole, drop_openingStop place bare]
    apply legible.unclosed bare
  · intro single
    rw [whole, stop, List.getElem?_append_right (Nat.le_refl _), Nat.sub_self,
      ← List.head?_eq_getElem?]
    apply legible.single single
  · intro single
    by_contra! doubled
    apply getElem?_start_sub_one inside single doubled.1 doubled.2

/-- Where no occurrence of a scan stands, no opening mark of any of the names stands. -/
theorem not_opens_of_outside {text : Text} {place : Nat} (bracket : text[place]? = some '[')
    (outside : ∀ occurrence ∈ scan names text,
      place < occurrence.start ∨ occurrence.stop ≤ place) :
  ∀ name ∈ names, ¬ Opens name (text.drop (place + 1))
    ∧ ∀ text', text.drop (place + 1) = '[' :: text' → ¬ Opens name text'
  := by
  obtain ⟨low, char⟩ := List.getElem?_eq_some_iff.mp bracket
  have whole : text = text.take place ++ '[' :: text.drop (place + 1) := by
    rw [← char, List.getElem_cons_drop, List.take_append_drop]
  have length : (text.take place).length = place := List.length_take_of_le (Nat.le_of_lt low)
  apply read_eq_none_iff.mp
  apply @read_eq_none_of_outside names (text.take place) _ (List.cons_ne_nil _ _)
  rw [← whole, length]
  apply outside

/-- A search finds well-placed tags that do not overlap, in the order of their places. -/
theorem exists_search_wellPlaced (nonempty : ∃ name, name ∈ names) (text : Text) :
  ∃ found, search names text = .ok found
    ∧ found.Pairwise (fun occurrence next => occurrence.stop ≤ next.start)
    ∧ ∀ occurrence ∈ found, occurrence.WellPlaced names text
  := by
  obtain ⟨name, inside⟩ := nonempty
  use scan names text, search_of_mem inside text, pairwise_scan names text
  intro occurrence found
  apply wellPlaced_of_mem_scan found

/-- Several names, the empty one among them, doubled brackets and a slash before a bracket. -/
theorem exists_search_wellPlaced_of_mixed :
  let names := NameSet.ofList [[], "a".toList, "[b".toList]
  let text := "[[a x//]] [[b]/[/a][a].[/a]]".toList
  (∃ name, name ∈ names)
    ∧ ∃ found, search names text = .ok found
      ∧ found.Pairwise (fun occurrence next => occurrence.stop ≤ next.start)
      ∧ ∀ occurrence ∈ found, occurrence.WellPlaced names text
  := by
  intro names text
  have nonempty : ∃ name, name ∈ names := ⟨[], by simp [names]⟩
  exact ⟨nonempty, exists_search_wellPlaced nonempty text⟩

/-- A search misses no opening mark, and each tag that it finds takes up as much of the text
as the grammar of tags allows. -/
theorem exists_search_exhaustive (nonempty : ∃ name, name ∈ names) (text : Text) :
  ∃ found, search names text = .ok found
    ∧ (∀ place, text[place]? = some '[' →
      (∀ occurrence ∈ found, place < occurrence.start ∨ occurrence.stop ≤ place) →
      ∀ name ∈ names, ¬ Opens name (text.drop (place + 1))
        ∧ ∀ text', text.drop (place + 1) = '[' :: text' → ¬ Opens name text')
    ∧ ∀ occurrence ∈ found, occurrence.Exhaustive text
  := by
  obtain ⟨name, inside⟩ := nonempty
  use scan names text, search_of_mem inside text
  constructor
  · intro place bracket outside
    apply not_opens_of_outside bracket outside
  · intro occurrence found
    apply exhaustive_of_mem_scan found

/-- An unfinished opening mark, one name that continues the other, and a tag with no closing
mark behind a doubled bracket. -/
theorem exists_search_exhaustive_of_unfinished :
  let names := NameSet.ofList ["a".toList, "a-b".toList]
  let text := "[a-c] [[a-b]][/a] [a".toList
  (∃ name, name ∈ names)
    ∧ ∃ found, search names text = .ok found
      ∧ (∀ place, text[place]? = some '[' →
        (∀ occurrence ∈ found, place < occurrence.start ∨ occurrence.stop ≤ place) →
        ∀ name ∈ names, ¬ Opens name (text.drop (place + 1))
          ∧ ∀ text', text.drop (place + 1) = '[' :: text' → ¬ Opens name text')
      ∧ ∀ occurrence ∈ found, occurrence.Exhaustive text
  := by
  intro names text
  have nonempty : ∃ name, name ∈ names := ⟨"a".toList, by simp [names]⟩
  exact ⟨nonempty, exists_search_exhaustive nonempty text⟩

end Tag

end Shortcode
