import Shortcode.Text.Basic

/-!
# Filler spaces

Editors put no-break and zero-width spaces where an author typed a plain one.
`normalizeSpaces` writes one plain space for each run of them and leaves every other
character alone.  So the parts of a text are normalized apart from each other wherever they
meet without a filler (`normalizeSpaces_append_of_plain`, `normalizeSpaces_append`).
-/

namespace Shortcode

/-- The no-break space and the zero-width space. -/
def isFiller (c : Char) : Bool := c.toNat == 0xA0 || c.toNat == 0x200B

/-- Normalize a text that follows a filler (`inRun`), whose run has been written, or not. -/
def normalizeSpacesAfter (inRun : Bool) : Text → Text
  | [] => []
  | c :: text =>
    if isFiller c then
      if inRun then normalizeSpacesAfter true text else ' ' :: normalizeSpacesAfter true text
    else c :: normalizeSpacesAfter false text

/-- The text with each run of fillers replaced by one plain space. -/
def normalizeSpaces (text : Text) : Text := normalizeSpacesAfter false text

/-- No filler is left. -/
theorem isFiller_of_mem_normalizeSpaces {text : Text} {c : Char}
    (h : c ∈ normalizeSpaces text) :
  isFiller c = false
  := by
  suffices general : ∀ inRun, c ∈ normalizeSpacesAfter inRun text → isFiller c = false from
    general false h
  clear h
  induction text with
  | nil => simp [normalizeSpacesAfter]
  | cons d text ih =>
    intro inRun
    simp only [normalizeSpacesAfter]
    split
    · split
      · exact ih true
      · simp only [List.mem_cons]
        rintro (rfl | inside)
        · decide
        · exact ih true inside
    · simp only [List.mem_cons]
      rintro (rfl | inside)
      · simpa using ‹¬isFiller c = true›
      · exact ih false inside

/-- Characters that are no fillers are kept. -/
theorem normalizeSpaces_append_of_plain {front : Text} (plain : ∀ c ∈ front, isFiller c = false)
    (rest : Text) :
  normalizeSpaces (front ++ rest) = front ++ normalizeSpaces rest
  := by
  unfold normalizeSpaces
  induction front with
  | nil => rfl
  | cons c front ih =>
    rw [List.forall_mem_cons] at plain
    rw [List.cons_append, normalizeSpacesAfter, plain.1, if_neg Bool.false_ne_true, ih plain.2]
    rfl

/-- In front of a character that is no filler, a text is normalized on its own. -/
theorem normalizeSpaces_append {rest : Text} (starts : ∀ c ∈ rest.head?, isFiller c = false)
    (front : Text) :
  normalizeSpaces (front ++ rest) = normalizeSpaces front ++ normalizeSpaces rest
  := by
  suffices general : ∀ inRun, normalizeSpacesAfter inRun (front ++ rest)
      = normalizeSpacesAfter inRun front ++ normalizeSpaces rest from general false
  induction front with
  | nil =>
    intro inRun
    cases rest with
    | nil => rfl
    | cons c rest =>
      have plain : isFiller c = false := starts c rfl
      simp [normalizeSpaces, normalizeSpacesAfter, plain]
  | cons c front ih =>
    intro inRun
    simp only [List.cons_append, normalizeSpacesAfter, ih]
    split
    · split
      · rfl
      · rfl
    · rfl

/-- Only plain spaces are added. -/
theorem eq_or_mem_of_mem_normalizeSpaces {text : Text} {c : Char}
    (inside : c ∈ normalizeSpaces text) :
  c = ' ' ∨ c ∈ text
  := by
  suffices general : ∀ inRun, c ∈ normalizeSpacesAfter inRun text → c = ' ' ∨ c ∈ text from
    general false inside
  clear inside
  induction text with
  | nil => simp [normalizeSpacesAfter]
  | cons d text ih =>
    have later : ∀ inRun, c ∈ normalizeSpacesAfter inRun text → c = ' ' ∨ c ∈ d :: text := by
      intro inRun inside
      exact (ih inRun inside).imp_right (List.mem_cons_of_mem d)
    intro inRun
    simp only [normalizeSpacesAfter]
    split
    · split
      · exact later true
      · rw [List.mem_cons]
        rintro (space | inside)
        · exact .inl space
        · exact later true inside
    · rw [List.mem_cons]
      rintro (rfl | inside)
      · exact .inr List.mem_cons_self
      · exact later false inside

theorem normalizeSpaces_ne_nil {text : Text} (nonempty : text ≠ []) :
  normalizeSpaces text ≠ []
  := by
  cases text with
  | nil => contradiction
  | cons c text =>
    rw [normalizeSpaces, normalizeSpacesAfter]
    split <;> simp

end Shortcode
