import Shortcode.Text.Basic

/-!
# First occurrences of marks

`Text.splitAtFirst? mark` cuts a text at the first place where the mark occurs:
`splitAtFirst?_eq_some_iff` says which cut it makes, and `splitAtFirst?_eq_none_iff` when it
makes none.  That a place is the first one is said of the text before it alone, by
`Text.OnlyAtEnd`: the mark occurs in that text followed by the mark only at the very end.

A text that is put together of parts is `Text.FreeOf` a mark if its parts are: the mark does not
begin inside of it, whatever follows.
-/

namespace Shortcode

namespace Text

/-! ### First characters -/

theorem head?_append_ne {c : Char} {front rest : Text} (without : c ∉ front)
    (other : rest.head? ≠ some c) :
  (front ++ rest).head? ≠ some c
  := by
  cases front with
  | nil => apply other
  | cons d front =>
    rw [List.mem_cons, not_or] at without
    simpa using Ne.symm without.1

/-- A text is cut at the first place of a character in one way. -/
theorem eq_of_append_cons_eq {d : Char} {front front' rest rest' : Text} (without : d ∉ front)
    (without' : d ∉ front') (whole : front ++ d :: rest = front' ++ d :: rest') :
  front = front' ∧ rest = rest'
  := by
  rcases List.append_eq_append_iff.mp whole with ⟨middle, rfl, same⟩ | ⟨middle, rfl, same⟩
  · cases middle <;> simp_all
  · cases middle <;> simp_all

/-! ### First occurrences -/

/-- In `front` followed by the mark, the mark occurs only at the very end. -/
def OnlyAtEnd (mark front : Text) : Prop :=
  ∀ before behind, front ++ mark = before ++ mark ++ behind → behind = []

theorem after?_eq_none_iff {mark text : Text} :
  after? mark text = none ↔ ¬ mark <+: text
  := by
  constructor
  · rintro declined ⟨rest, rfl⟩
    rw [after?_append] at declined
    contradiction
  · intro absent
    rw [Option.eq_none_iff_forall_ne_some]
    intro rest found
    apply absent
    rw [eq_append_of_after? found]
    apply List.prefix_append

/-- Before a mark at the very start of a text, nothing stands. -/
theorem eq_nil_of_onlyAtEnd {mark front rest : Text} (first : OnlyAtEnd mark front)
    (start : mark <+: front ++ mark ++ rest) :
  front = []
  := by
  have within : mark <+: front ++ mark := by
    apply List.prefix_of_prefix_length_le start (List.prefix_append _ _)
    simp
  obtain ⟨behind, same⟩ := within
  have last : behind = [] := first [] behind same.symm
  subst last
  simpa using same

/-- One character more before the mark makes no difference, unless the mark occurs there. -/
theorem onlyAtEnd_cons_iff {mark front rest : Text} {c : Char}
    (absent : ¬ mark <+: c :: front ++ mark ++ rest) :
  OnlyAtEnd mark (c :: front) ↔ OnlyAtEnd mark front
  := by
  constructor
  · intro first before behind same
    apply first (c :: before)
    simp [same]
  · intro first before behind same
    cases before with
    | nil =>
      apply absurd _ absent
      rw [same]
      simp
    | cons d before =>
      simp only [List.cons_append, List.cons.injEq] at same
      apply first before behind same.2

/-- No cut is made exactly if the mark does not occur. -/
theorem splitAtFirst?_eq_none_iff {mark text : Text} :
  splitAtFirst? mark text = none ↔ ¬ mark <:+: text
  := by
  induction text with
  | nil =>
    simp only [splitAtFirst?, Option.map_eq_none_iff]
    rw [after?_eq_none_iff, List.prefix_nil, List.infix_nil]
  | cons c text ih =>
    rw [List.infix_cons_iff, not_or, ← ih, ← after?_eq_none_iff]
    simp only [splitAtFirst?]
    cases after? mark (c :: text) with
    | none => simp
    | some rest => simp

theorem onlyAtEnd_of_splitAtFirst? {mark text front rest : Text}
    (cut : splitAtFirst? mark text = some (front, rest)) :
  OnlyAtEnd mark front
  := by
  have whole := eq_of_splitAtFirst? cut
  induction text generalizing front with
  | nil =>
    intro before behind same
    simp_all
  | cons c text ih =>
    simp only [splitAtFirst?] at cut
    split at cut
    · obtain ⟨rfl, rfl⟩ := by simpa using cut
      intro before behind same
      have lengths := congrArg List.length same
      simp only [List.length_append, List.length_nil] at lengths
      apply List.eq_nil_of_length_eq_zero
      omega
    · rename_i declined
      simp only [Option.map_eq_some_iff, Prod.exists, Prod.mk.injEq] at cut
      obtain ⟨front', rest', found, rfl, rfl⟩ := cut
      rw [after?_eq_none_iff, whole] at declined
      apply (onlyAtEnd_cons_iff declined).mpr
      apply ih found (eq_of_splitAtFirst? found)

theorem splitAtFirst?_append {mark front : Text} (first : OnlyAtEnd mark front) (rest : Text) :
  splitAtFirst? mark (front ++ mark ++ rest) = some (front, rest)
  := by
  induction front with
  | nil =>
    have start := after?_append mark rest
    rw [List.nil_append]
    cases whole : mark ++ rest with
    | nil =>
      rw [whole] at start
      simp [splitAtFirst?, start]
    | cons c text =>
      rw [whole] at start
      simp [splitAtFirst?, start]
  | cons c front ih =>
    have absent : ¬ mark <+: c :: front ++ mark ++ rest := by
      intro start
      have := eq_nil_of_onlyAtEnd first start
      contradiction
    have declined := after?_eq_none_iff.mpr absent
    simp only [List.cons_append] at declined ⊢
    simp only [splitAtFirst?, declined]
    rw [ih ((onlyAtEnd_cons_iff absent).mp first)]
    rfl

/-- The cut is made at the mark before which the mark does not occur. -/
theorem splitAtFirst?_eq_some_iff {mark text front rest : Text} :
  splitAtFirst? mark text = some (front, rest)
    ↔ text = front ++ mark ++ rest ∧ OnlyAtEnd mark front
  := by
  constructor
  · intro cut
    exact ⟨eq_of_splitAtFirst? cut, onlyAtEnd_of_splitAtFirst? cut⟩
  · rintro ⟨rfl, first⟩
    apply splitAtFirst?_append first

/-- In front of the end of a text followed by a mark, the mark begins nowhere. -/
theorem onlyAtEnd_iff_drop {mark front rest : Text} :
  OnlyAtEnd mark front
    ↔ ∀ place, place < front.length → ¬ mark <+: (front ++ mark ++ rest).drop place
  := by
  constructor
  · intro first place low start
    have later : OnlyAtEnd mark (front.drop place) := by
      intro before behind same
      apply first (front.take place ++ before)
      rw [List.append_assoc _ before, List.append_assoc _ (before ++ mark), ← same,
        ← List.append_assoc, List.take_append_drop]
    rw [List.append_assoc, List.drop_append_of_le_length (Nat.le_of_lt low),
      ← List.append_assoc] at start
    have ended := List.drop_eq_nil_iff.mp (eq_nil_of_onlyAtEnd later start)
    omega
  · intro absent before behind whole
    cases behind with
    | nil => rfl
    | cons c behind =>
      have lengths := congrArg List.length whole
      simp only [List.length_append, List.length_cons] at lengths
      apply absurd _ (absent before.length (by omega))
      rw [whole, List.append_assoc, List.append_assoc, List.drop_left]
      apply List.prefix_append

/-! ### Texts free of a mark -/

/-- The mark does not begin inside the text, whatever follows the text. -/
def FreeOf (mark text : Text) : Prop :=
  ∀ ⦃rest before behind⦄, text ++ rest = before ++ mark ++ behind → text <+: before

variable {mark text front : Text}

theorem freeOf_nil (mark : Text) :
  FreeOf mark []
  := by
  intro _ before _ _
  apply List.nil_prefix

theorem FreeOf.append (first : FreeOf mark front) (second : FreeOf mark text) :
  FreeOf mark (front ++ text)
  := by
  intro rest before behind whole
  rw [List.append_assoc] at whole
  obtain ⟨middle, rfl⟩ := first whole
  simp only [List.append_assoc, List.append_cancel_left_eq] at whole
  rw [← List.append_assoc] at whole
  rw [List.prefix_append_right_inj]
  apply second whole

/-- A text is free of a mark by whose first character no part of the text begins. -/
theorem freeOf_of_not_mem {d : Char} (absent : d ∉ text) (mark : Text) :
  FreeOf (d :: mark) text
  := by
  intro rest before behind whole
  rw [List.append_assoc] at whole
  rcases List.append_eq_append_iff.mp whole with ⟨middle, rfl, -⟩ | ⟨middle, rfl, same⟩
  · apply List.prefix_append
  · cases middle with
    | nil => simp
    | cons c middle =>
      rw [List.cons_append, List.cons_append, List.cons.injEq] at same
      apply absurd _ absent
      simp [same.1]

/-- A text in which the first character of a mark stands only at the start is free of the mark
if the mark does not occur there. -/
theorem freeOf_cons_of_not_mem {d : Char} (absent : d ∉ text)
    (other : ∀ rest, ¬ d :: mark <+: d :: (text ++ rest)) :
  FreeOf (d :: mark) (d :: text)
  := by
  intro rest before behind whole
  cases before with
  | nil =>
    apply absurd _ (other rest)
    rw [← List.cons_append, whole]
    apply List.prefix_append
  | cons c before =>
    simp only [List.cons_append, List.cons.injEq] at whole
    obtain ⟨rfl, whole⟩ := whole
    rw [List.cons_prefix_cons]
    exact ⟨rfl, freeOf_of_not_mem absent mark whole⟩

/-- In a text free of a mark, followed by the mark, the mark occurs only at the end. -/
theorem FreeOf.onlyAtEnd (free : FreeOf mark front) :
  OnlyAtEnd mark front
  := by
  intro before behind whole
  obtain ⟨middle, rfl⟩ := free whole
  have lengths := congrArg List.length whole
  simp only [List.length_append] at lengths
  apply List.eq_nil_of_length_eq_zero
  omega

end Text

end Shortcode
