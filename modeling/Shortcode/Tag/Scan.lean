import Shortcode.Name.Set
import Shortcode.Tag
import Shortcode.Text.Pieces

/-!
# Occurrences of tags in a text

`Tag.pieces names text` cuts a text into the tags of the given names and the characters
between them, and `Tag.scan names text` lists the tags alone.  An `Occurrence` is a tag with
the place where it starts.  `flatMap_render_pieces` says that nothing of the text is lost by
the cut.

`Tag.search` is the scan for callers who choose the names themselves: it refuses to look for
tags without any name.
-/

namespace Shortcode

/-- A tag at a place of a text. -/
structure Occurrence where
  tag : Tag
  /-- How many characters stand before the tag. -/
  start : Nat
  deriving DecidableEq, Repr

namespace Occurrence

/-- The part of the text that the tag takes up. -/
def text (occurrence : Occurrence) : Text := occurrence.tag.render

/-- The place behind the tag. -/
def stop (occurrence : Occurrence) : Nat := occurrence.start + occurrence.text.length

end Occurrence

/-- Give each tag among the pieces its place, the first piece being at `start`. -/
def locate : Nat → List (Piece Tag) → List (Piece Occurrence)
  | _, [] => []
  | start, .char c :: pieces => .char c :: locate (start + 1) pieces
  | start, .item tag :: pieces => .item ⟨tag, start⟩ :: locate (start + tag.render.length) pieces

namespace Tag

/-- The pieces of a text with respect to the tags of the given names. -/
def pieces (names : NameSet) (text : Text) : List (Piece Occurrence) :=
  locate 0 (Text.pieces (read names.toList) text)

/-- The tags of the given names in a text, from left to right. -/
def scan (names : NameSet) (text : Text) : List Occurrence :=
  (pieces names text).filterMap Piece.item?

/-- The tags of the given names in a text, of which names there must be at least one. -/
def search (names : NameSet) (text : Text) : Except Fault (List Occurrence) := do
  checkNames names
  return scan names text

/-- With any name at all, a search finds the tags of the scan. -/
theorem search_of_mem {names : NameSet} {name : Text} (inside : name ∈ names) (text : Text) :
  search names text = .ok (scan names text)
  := by
  rw [search, checkNames_eq_ok_iff.mpr ⟨name, inside⟩]
  rfl

theorem flatMap_render_locate (start : Nat) (pieces : List (Piece Tag)) :
  (locate start pieces).flatMap (Piece.render Occurrence.text)
    = pieces.flatMap (Piece.render render)
  := by
  induction pieces generalizing start with
  | nil => rfl
  | cons piece pieces ih =>
    cases piece with
    | char c => simp [locate, Piece.render, ih]
    | item tag => simp [locate, Piece.render, Occurrence.text, ih]

/-- The tags and the characters between them make up the text. -/
theorem flatMap_render_pieces (names : NameSet) (text : Text) :
  (pieces names text).flatMap (Piece.render Occurrence.text) = text
  := by
  rw [pieces, flatMap_render_locate]
  exact Text.flatMap_render_pieces (fun _ _ _ => render_append_of_read) render_ne_nil text

end Tag

end Shortcode
