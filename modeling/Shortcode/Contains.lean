import Shortcode.Registry
import Shortcode.Tag.Scan

/-!
# Looking for a shortcode

`Registry.hasShortcode` says whether a text contains a tag of a registered name at any
depth: among the tags of the text, or in the content of one of them.

Contents are shorter than the texts they stand in, so the search of them ends.  It goes as deep as
they do: the limit that a runtime may set to the depth of nested calls is not modelled.
-/

namespace Shortcode

namespace Tag

/-- The content of a tag is shorter than the tag. -/
theorem length_content_lt {tag : Tag} {content : Text} (h : tag.content? = some content) :
  content.length < tag.render.length
  := by
  cases tag with
  | mk doubledOpen name attributes body doubledClose =>
    cases body with
    | selfClosing => simp [content?] at h
    | bare => simp [content?] at h
    | enclosing inner =>
      simp only [content?, Option.some.injEq] at h
      subst h
      simp only [render, core, Body.render, List.length_append, List.length_cons]
      omega

/-- A tag of a text is no longer than the text. -/
theorem length_text_le_of_mem_scan {names : NameSet} {text : Text} {occurrence : Occurrence}
    (found : occurrence ∈ scan names text) :
  occurrence.text.length ≤ text.length
  := by
  obtain ⟨piece, inside, isItem⟩ := List.mem_filterMap.mp found
  have bound : piece.render Occurrence.text <:+: (pieces names text).flatMap
      (Piece.render Occurrence.text) := by
    obtain ⟨front, rest, split⟩ := List.append_of_mem inside
    rw [split, List.flatMap_append, List.flatMap_cons]
    exact ⟨_, _, List.append_assoc ..⟩
  rw [flatMap_render_pieces] at bound
  cases piece with
  | char c => simp [Piece.item?] at isItem
  | item a =>
    simp only [Piece.item?, Option.some.injEq] at isItem
    subst isItem
    exact bound.length_le

end Tag

/-- A tag of the name `name` stands among the tags of the given names in a text, or in the
content of one of them. -/
def containsTag (names : NameSet) (name text : Text) : Bool :=
  (Tag.scan names text).attach.any fun ⟨occurrence, _⟩ =>
    occurrence.tag.name == name ||
      occurrence.tag.content?.attach.any fun ⟨content, _⟩ => containsTag names name content
termination_by text.length
decreasing_by
  rename_i found enclosed
  have := Tag.length_text_le_of_mem_scan found
  have := Tag.length_content_lt enclosed
  simp only [Occurrence.text] at *
  omega

/-- The text contains a tag of the name, which is registered, at any depth. -/
def Registry.hasShortcode {H : Type} (registry : Registry H) (text name : Text) : Bool :=
  text.elem '[' && registry.has name && containsTag registry.names name text

end Shortcode
