import Mathlib.Tactic.Use
import Shortcode.Text.Pieces

/-!
# Runs of readers

A reader that consumes takes a nonempty beginning of the text for each item.  What holds of
the empty text, and holds of a text as soon as it holds behind the character that such a
reader leaves, or behind the item that it takes, holds of every text: this is
`pieces_induction`.
-/

namespace Shortcode

namespace Text

variable {α : Type} {read : Text → Option (α × Text)}

/-- For each item the reader takes a nonempty beginning of the text. -/
def Consumes (read : Text → Option (α × Text)) : Prop :=
  ∀ ⦃text a rest⦄, read text = some (a, rest) → ∃ front, front ≠ [] ∧ text = front ++ rest

/-- A reader consumes if each item is written as it was read, and not as nothing. -/
theorem consumes_of_lossless {write : α → Text}
    (lossless : ∀ text a rest, read text = some (a, rest) → text = write a ++ rest)
    (nonempty : ∀ a, write a ≠ []) :
  Consumes read
  := by
  intro text a rest found
  use write a, nonempty a
  apply lossless _ _ _ found

/-- Induction along the run of a reader through a text. -/
@[elab_as_elim]
theorem pieces_induction (consumes : Consumes read) {motive : Text → Prop}
    (nil : motive [])
    (skip : ∀ c text, read (c :: text) = none → motive text → motive (c :: text))
    (item : ∀ front a rest, front ≠ [] → read (front ++ rest) = some (a, rest) → motive rest →
      motive (front ++ rest))
    (text : Text) :
  motive text
  := by
  induction h : text.length using Nat.strongRecOn generalizing text with
  | ind n ih =>
    cases text with
    | nil => apply nil
    | cons c text =>
      cases found : read (c :: text) with
      | none =>
        apply skip c text found
        apply ih text.length _ text rfl
        simp [← h]
      | some result =>
        obtain ⟨a, rest⟩ := result
        obtain ⟨front, nonempty, split⟩ := consumes found
        rw [split] at found h ⊢
        apply item front a rest nonempty found
        apply ih rest.length _ rest rfl
        have := List.length_pos_iff.mpr nonempty
        simp only [List.length_append] at h
        omega

@[simp]
theorem items_nil (read : Text → Option (α × Text)) :
  items read [] = []
  := rfl

/-- An item is listed before those behind it. -/
theorem items_of_read {front rest : Text} {a : α} (nonempty : front ≠ [])
    (found : read (front ++ rest) = some (a, rest)) :
  items read (front ++ rest) = a :: items read rest
  := by
  rw [items, pieces_of_read nonempty found]
  rfl

/-- A character that is left as it is adds no item. -/
theorem items_of_skip {c : Char} {text : Text} (declined : read (c :: text) = none) :
  items read (c :: text) = items read text
  := by
  rw [items, pieces_of_skip declined]
  rfl

end Text

end Shortcode
