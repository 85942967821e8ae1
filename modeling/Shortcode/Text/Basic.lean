/-!
# Texts and marks

A text is a list of characters.  A mark is a text that is looked for in another one:
`after? mark text` is what follows a mark at the very start, and `splitAtFirst? mark text`
cuts a text at the first place where the mark occurs.  Both give back what they cut, so a
text is always the parts put together again.
-/

namespace Shortcode

/-- A text, as the list of its characters. -/
abbrev Text : Type := List Char

namespace Text

/-- What follows the mark, if the text starts with it. -/
def after? : Text → Text → Option Text
  | [], text => some text
  | _ :: _, [] => none
  | m :: mark, c :: text => if m = c then after? mark text else none

/-- The text before the first occurrence of the mark and the text behind it. -/
def splitAtFirst? (mark : Text) : Text → Option (Text × Text)
  | [] => (after? mark []).map ([], ·)
  | c :: text =>
    match after? mark (c :: text) with
    | some rest => some ([], rest)
    | none => (splitAtFirst? mark text).map fun (front, rest) => (c :: front, rest)

/-- The mark occurs somewhere in the text. -/
def occursIn (mark text : Text) : Bool := (splitAtFirst? mark text).isSome

/-- The texts with a separator between each two of them. -/
def join (separator : Text) (texts : List Text) : Text := (texts.intersperse separator).flatten

theorem after?_append (mark rest : Text) :
  after? mark (mark ++ rest) = some rest
  := by
  induction mark with
  | nil => rfl
  | cons m mark ih => simp [after?, ih]

theorem eq_append_of_after? {mark text rest : Text} (h : after? mark text = some rest) :
  text = mark ++ rest
  := by
  induction mark generalizing text with
  | nil => simpa [after?] using h
  | cons m mark ih =>
    cases text with
    | nil => simp [after?] at h
    | cons c text =>
      simp only [after?] at h
      split at h
      · rename_i same
        simp [same, ih h]
      · simp at h

/-- A text starts with a mark exactly if it is the mark and what follows it. -/
theorem after?_eq_some_iff {mark text rest : Text} :
  after? mark text = some rest ↔ text = mark ++ rest
  := ⟨eq_append_of_after?, fun h => h ▸ after?_append mark rest⟩

/-- The two parts and the mark between them make up the text. -/
theorem eq_of_splitAtFirst? {mark text front rest : Text}
    (h : splitAtFirst? mark text = some (front, rest)) :
  text = front ++ mark ++ rest
  := by
  induction text generalizing front with
  | nil =>
    simp only [splitAtFirst?, Option.map_eq_some_iff, Prod.mk.injEq] at h
    obtain ⟨_, found, rfl, rfl⟩ := h
    simpa using eq_append_of_after? found
  | cons c text ih =>
    simp only [splitAtFirst?] at h
    split at h
    · rename_i found
      simp only [Option.some.injEq, Prod.mk.injEq] at h
      obtain ⟨rfl, rfl⟩ := h
      simpa using eq_append_of_after? found
    · simp only [Option.map_eq_some_iff, Prod.exists, Prod.mk.injEq] at h
      obtain ⟨front', rest', found, rfl, rfl⟩ := h
      simpa using ih found

end Text

end Shortcode
