import Shortcode.Text.Basic

/-!
# Cutting a text into pieces

A reader looks at the start of a text and either takes an item from it, giving back the text
behind the item, or declines.  `pieces read text` goes through the text from left to right:
where the reader takes an item, the item is a piece and the search goes on behind it, and
where it declines, the character there is a piece of its own.  Items therefore do not
overlap, and the leftmost one wins.

`pieces_of_read` and `pieces_of_skip` are the two equations that readers are reasoned about
with.
-/

namespace Shortcode

/-- A piece of a text: a character left as it is, or an item that was read. -/
inductive Piece (α : Type) where
  | char (c : Char)
  | item (a : α)
  deriving DecidableEq, Repr

namespace Piece

variable {α β : Type}

/-- The item of a piece, if it is one. -/
def item? : Piece α → Option α
  | .char _ => none
  | .item a => some a

/-- The text of a piece whose items are written by `write`. -/
def render (write : α → Text) : Piece α → Text
  | .char c => [c]
  | .item a => write a

end Piece

namespace Text

variable {α : Type}

/-- The pieces of a text whose first `skip` characters belong to an item already read. -/
def piecesAfter (read : Text → Option (α × Text)) : Nat → Text → List (Piece α)
  | _, [] => []
  | skip + 1, _ :: text => piecesAfter read skip text
  | 0, c :: text =>
    match read (c :: text) with
    | some (a, rest) => .item a :: piecesAfter read (text.length - rest.length) text
    | none => .char c :: piecesAfter read 0 text

/-- The pieces that a reader cuts a text into. -/
def pieces (read : Text → Option (α × Text)) (text : Text) : List (Piece α) :=
  piecesAfter read 0 text

/-- The items that a reader finds in a text, in order. -/
def items (read : Text → Option (α × Text)) (text : Text) : List α :=
  (pieces read text).filterMap Piece.item?

@[simp]
theorem pieces_nil (read : Text → Option (α × Text)) :
  pieces read [] = []
  := rfl

theorem piecesAfter_append (read : Text → Option (α × Text)) (front rest : Text) :
  piecesAfter read front.length (front ++ rest) = pieces read rest
  := by
  induction front with
  | nil => rfl
  | cons c front ih => exact ih

/-- Behind an item the search goes on with the text that the reader gave back. -/
theorem pieces_of_read {read : Text → Option (α × Text)} {front rest : Text} {a : α}
    (nonempty : front ≠ []) (h : read (front ++ rest) = some (a, rest)) :
  pieces read (front ++ rest) = .item a :: pieces read rest
  := by
  cases front with
  | nil => contradiction
  | cons c front =>
    rw [List.cons_append] at h ⊢
    simp only [pieces, piecesAfter, h, List.length_append, Nat.add_sub_cancel]
    rw [piecesAfter_append]
    rfl

/-- A character at which the reader declines is left as it is. -/
theorem pieces_of_skip {read : Text → Option (α × Text)} {c : Char} {text : Text}
    (h : read (c :: text) = none) :
  pieces read (c :: text) = .char c :: pieces read text
  := by
  simp only [pieces, piecesAfter, h]

/-- The pieces make up the text again, if each item is written as it was read. -/
theorem flatMap_render_pieces {read : Text → Option (α × Text)} {write : α → Text}
    (lossless : ∀ text a rest, read text = some (a, rest) → text = write a ++ rest)
    (nonempty : ∀ a, write a ≠ []) (text : Text) :
  (pieces read text).flatMap (Piece.render write) = text
  := by
  induction h : text.length using Nat.strongRecOn generalizing text with
  | ind n ih =>
    cases text with
    | nil => rfl
    | cons c text =>
      cases found : read (c :: text) with
      | none =>
        rw [pieces_of_skip found]
        simp only [List.flatMap_cons, Piece.render, List.cons_append, List.nil_append]
        rw [ih text.length (by simp [← h]) text rfl]
      | some result =>
        obtain ⟨a, rest⟩ := result
        have split := lossless _ _ _ found
        have shorter : rest.length < n := by
          have := congrArg List.length split
          have := List.length_pos_iff.mpr (nonempty a)
          simp at *
          omega
        rw [split] at found ⊢
        rw [pieces_of_read (nonempty a) found]
        simp only [List.flatMap_cons, Piece.render]
        rw [ih rest.length shorter rest rfl]

/-! ### Replacing a mark -/

/-- The text with every occurrence of the mark, searched from left to right, replaced. -/
def replaceAll (mark replacement text : Text) : Text :=
  (pieces (fun text => (after? mark text).map ((), ·)) text).flatMap
    (Piece.render fun _ => replacement)

end Text

end Shortcode
