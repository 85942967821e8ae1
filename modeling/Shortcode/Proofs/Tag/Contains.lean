import Shortcode.Contains
import Shortcode.Proofs.Tag.Written

/-!
# Texts that contain tags

A text contains a tag of a name if one of its tags has that name, or contains one in its content
(`containsTag_iff`).  Contents are parts of their text, so where a tag is contained, its opening
mark stands somewhere in the text (`opensIn_of_containsTag`).
-/

namespace Shortcode

/-- A text contains a tag of the name if one of its tags has that name, or contains one. -/
theorem containsTag_iff {names : NameSet} {name text : Text} :
  containsTag names name text
    ↔ ∃ occurrence ∈ Tag.scan names text, occurrence.tag.name = name
      ∨ ∃ content, occurrence.tag.content? = some content ∧ containsTag names name content
  := by
  rw [containsTag]
  simp [Option.any_eq_true]

/-- It makes no difference where the tags stand in the text. -/
theorem containsTag_iff_items {names : NameSet} {name text : Text} :
  containsTag names name text
    ↔ ∃ tag ∈ Text.items (Tag.read names.toList) text, tag.name = name
      ∨ ∃ content, tag.content? = some content ∧ containsTag names name content
  := by
  rw [containsTag_iff, ← Tag.map_tag_scan]
  simp

/-- Behind text without opening brackets, a tag that is read makes the text contain the tag, what
its content contains, and what the text behind it contains. -/
theorem containsTag_written_iff {names : NameSet} {name front rest : Text} {tag : Tag}
    (without : '[' ∉ front)
    (found : Tag.read names.toList (tag.render ++ rest) = some (tag, rest)) :
  containsTag names name (front ++ (tag.render ++ rest))
    ↔ tag.name = name ∨ (∃ content, tag.content? = some content ∧ containsTag names name content)
      ∨ containsTag names name rest
  := by
  rw [containsTag_iff_items, Tag.items_written without found, @containsTag_iff_items names name rest]
  simp [or_assoc]

/-- If a text has a single tag, and no content in it, then it contains that tag alone. -/
theorem containsTag_iff_of_alone {names : NameSet} {name text : Text} {tag : Tag}
    (alone : Text.items (Tag.read names.toList) text = [tag]) (empty : tag.content? = none) :
  containsTag names name text ↔ tag.name = name
  := by
  rw [containsTag_iff_items, alone]
  simp [empty]

/-- An opening mark of the name stands somewhere in the text. -/
def OpensIn (name text : Text) : Prop :=
  ∃ front behind, text = front ++ '[' :: behind ∧ Tag.Opens name behind

theorem OpensIn.append {name text : Text} (opens : OpensIn name text) (before rest : Text) :
  OpensIn name (before ++ (text ++ rest))
  := by
  obtain ⟨front, behind, rfl, opens⟩ := opens
  use before ++ front, behind ++ rest
  constructor
  · simp
  · apply opens.append

/-- A tag that is read opens where it is written. -/
theorem Tag.Legible.opensIn {tag : Tag} {rest : Text} (legible : tag.Legible rest) :
  OpensIn tag.name (tag.render ++ rest)
  := by
  use tag.opener, tag.name ++ tag.attributes ++ tag.body.render tag.name ++ tag.closer ++ rest
  constructor
  · simp [render, core]
  · apply legible.opens

/-- The content of a tag is a part of its written form. -/
theorem Tag.exists_render_eq {tag : Tag} {content : Text} (enclosed : tag.content? = some content) :
  ∃ before behind, tag.render = before ++ (content ++ behind)
  := by
  use tag.opener ++ '[' :: (tag.name ++ tag.attributes ++ [']']), closingMark tag.name ++ tag.closer
  rw [render, core, body_of_content? enclosed]
  simp [Body.render]

/-- Where a tag is contained, at any depth, its opening mark stands in the text. -/
theorem opensIn_of_containsTag {names : NameSet} {name text : Text}
    (contained : containsTag names name text) :
  OpensIn name text
  := by
  induction text using containsTag.induct names with
  | case1 text ih =>
    obtain ⟨occurrence, found, named | ⟨content, enclosed, within⟩⟩ := containsTag_iff.mp contained
    · obtain ⟨front, rest, rfl, -, read⟩ := Tag.read_of_mem_scan found
      have opens := (Tag.legible_of_read read).opensIn.append front []
      rw [named, List.append_nil] at opens
      rw [List.append_assoc]
      apply opens
    · obtain ⟨front, rest, rfl, -, -⟩ := Tag.read_of_mem_scan found
      obtain ⟨before, behind, written⟩ := Tag.exists_render_eq enclosed
      have opens := (ih occurrence found content enclosed within).append (front ++ before)
        (behind ++ rest)
      rw [Occurrence.text, written]
      simpa using opens

/-- Behind the name in an opening mark stands a character that does not continue it, with a closing
bracket at it or behind it. -/
theorem OpensIn.exists_eq {name text : Text} (opens : OpensIn name text) :
  ∃ front c behind, text = front ++ '[' :: (name ++ c :: behind)
    ∧ isWord c = false ∧ c ≠ '-' ∧ ']' ∈ c :: behind
  := by
  obtain ⟨front, -, rfl, behind, rfl, ends, closed⟩ := opens
  obtain ⟨c, behind, rfl⟩ := List.exists_cons_of_ne_nil (List.ne_nil_of_mem closed)
  obtain ⟨d, first, plain, other⟩ := Tag.exists_of_endsName ends (List.cons_ne_nil c behind)
  obtain rfl := Option.some.inj first
  use front, c, behind, rfl, plain, other

/-- The text contains a shortcode if its name is registered and it contains a tag of that name. -/
theorem Registry.hasShortcode_iff {H : Type} {registry : Registry H} {text name : Text} :
  registry.hasShortcode text name ↔ registry.has name ∧ containsTag registry.names name text
  := by
  rw [hasShortcode, Bool.and_eq_true, Bool.and_eq_true]
  constructor
  · rintro ⟨⟨-, known⟩, contained⟩
    exact ⟨known, contained⟩
  · rintro ⟨known, contained⟩
    have bracket : '[' ∈ text := by
      obtain ⟨front, behind, rfl, -⟩ := opensIn_of_containsTag contained
      simp
    exact ⟨⟨by simpa using bracket, known⟩, contained⟩

end Shortcode
