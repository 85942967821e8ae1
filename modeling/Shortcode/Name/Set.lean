import Shortcode.Text.Basic

/-!
# Finite sets of names

A `NameSet` is a finite set of texts, held as its members in strictly increasing order of
code points.  The order is the one in which names are tried when a tag is read and in which
sets of names are shown, so a set determines it: `NameSet.ext` says that two sets with the
same members are equal.
-/

namespace Shortcode

/-- A finite set of names. -/
structure NameSet where
  /-- The members, in increasing order. -/
  toList : List Text
  /-- Each member comes before all those behind it. -/
  sorted : toList.Pairwise (· < ·)

namespace NameSet

theorem text_lt_trans {a b c : Text} (h : a < b) (h' : b < c) :
  a < c
  := List.lt_trans h h'

theorem text_lt_irrefl (a : Text) :
  ¬ a < a
  := List.lt_irrefl a

theorem text_lt_of_not_lt {a b : Text} (ne : a ≠ b) (h : ¬ a < b) :
  b < a
  := by
  apply Decidable.byContradiction
  intro h'
  exact ne (List.le_antisymm (List.not_lt.mp h') (List.not_lt.mp h))

/-- Put a text into an increasing list, unless it is there. -/
def insertSorted (name : Text) : List Text → List Text
  | [] => [name]
  | other :: rest =>
    if name = other then other :: rest
    else if name < other then name :: other :: rest
    else other :: insertSorted name rest

@[simp]
theorem mem_insertSorted {a name : Text} {names : List Text} :
  a ∈ insertSorted name names ↔ a = name ∨ a ∈ names
  := by
  induction names with
  | nil => simp [insertSorted]
  | cons other rest ih =>
    simp only [insertSorted]
    split
    · rename_i same
      simp only [List.mem_cons, same]
      constructor
      · exact Or.inr
      · rintro (rfl | h)
        · exact Or.inl rfl
        · exact h
    · split
      · simp
      · simp only [List.mem_cons, ih]
        constructor
        · rintro (h | h | h)
          · exact Or.inr (Or.inl h)
          · exact Or.inl h
          · exact Or.inr (Or.inr h)
        · rintro (h | h | h)
          · exact Or.inr (Or.inl h)
          · exact Or.inl h
          · exact Or.inr (Or.inr h)

theorem sorted_insertSorted (name : Text) {names : List Text}
    (sorted : names.Pairwise (· < ·)) :
  (insertSorted name names).Pairwise (· < ·)
  := by
  induction names with
  | nil => simp [insertSorted]
  | cons other rest ih =>
    have ⟨below, tail⟩ := List.pairwise_cons.mp sorted
    simp only [insertSorted]
    split
    · exact sorted
    · rename_i ne
      split
      · rename_i lt
        refine List.pairwise_cons.mpr ⟨?_, sorted⟩
        intro a inside
        rcases List.mem_cons.mp inside with rfl | inside
        · exact lt
        · exact text_lt_trans lt (below a inside)
      · rename_i notLt
        refine List.pairwise_cons.mpr ⟨?_, ih tail⟩
        intro a inside
        rcases mem_insertSorted.mp inside with rfl | inside
        · exact text_lt_of_not_lt ne notLt
        · exact below a inside

instance : Membership Text NameSet := ⟨fun names name => name ∈ names.toList⟩

theorem mem_def {name : Text} {names : NameSet} :
  name ∈ names ↔ name ∈ names.toList
  := Iff.rfl

instance (name : Text) (names : NameSet) : Decidable (name ∈ names) :=
  inferInstanceAs (Decidable (name ∈ names.toList))

/-- The set without members. -/
def empty : NameSet := ⟨[], .nil⟩

/-- The set with one member more. -/
def insert (name : Text) (names : NameSet) : NameSet :=
  ⟨insertSorted name names.toList, sorted_insertSorted name names.sorted⟩

/-- The set of the texts of a list. -/
def ofList (names : List Text) : NameSet := names.foldr insert empty

/-- The members that a test accepts. -/
def filter (p : Text → Bool) (names : NameSet) : NameSet :=
  ⟨names.toList.filter p, names.sorted.filter p⟩

/-- The members of both sets. -/
def inter (names others : NameSet) : NameSet := names.filter fun name => decide (name ∈ others)

/-- The set has no members. -/
def isEmpty (names : NameSet) : Bool := names.toList.isEmpty

@[simp]
theorem not_mem_empty (name : Text) :
  ¬ name ∈ empty
  := by simp [mem_def, empty]

@[simp]
theorem mem_insert {a name : Text} {names : NameSet} :
  a ∈ insert name names ↔ a = name ∨ a ∈ names
  := mem_insertSorted

@[simp]
theorem mem_ofList {a : Text} {names : List Text} :
  a ∈ ofList names ↔ a ∈ names
  := by
  induction names with
  | nil => simp [ofList]
  | cons name names ih =>
    rw [List.mem_cons, ← ih]
    exact mem_insert

@[simp]
theorem mem_filter {a : Text} {p : Text → Bool} {names : NameSet} :
  a ∈ names.filter p ↔ a ∈ names ∧ p a
  := List.mem_filter

@[simp]
theorem mem_inter {a : Text} {names others : NameSet} :
  a ∈ names.inter others ↔ a ∈ names ∧ a ∈ others
  := by simp [inter]

/-- A set that has a member is not empty. -/
theorem isEmpty_eq_false_iff {names : NameSet} :
  names.isEmpty = false ↔ ∃ a, a ∈ names
  := by
  cases names with
  | mk names sorted => cases names <;> simp [isEmpty, mem_def]

theorem toList_eq_of_mem_iff {names others : List Text} (sorted : names.Pairwise (· < ·))
    (sorted' : others.Pairwise (· < ·)) (same : ∀ a, a ∈ names ↔ a ∈ others) :
  names = others
  := by
  induction names generalizing others with
  | nil =>
    cases others with
    | nil => rfl
    | cons other rest => exact absurd ((same other).mpr List.mem_cons_self) (by simp)
  | cons name names ih =>
    cases others with
    | nil => exact absurd ((same name).mp List.mem_cons_self) (by simp)
    | cons other others =>
      have ⟨below, tail⟩ := List.pairwise_cons.mp sorted
      have ⟨below', tail'⟩ := List.pairwise_cons.mp sorted'
      have first : name = other := by
        rcases List.mem_cons.mp ((same name).mp List.mem_cons_self) with h | h
        · exact h
        · rcases List.mem_cons.mp ((same other).mpr List.mem_cons_self) with h' | h'
          · exact h'.symm
          · exact absurd (text_lt_trans (below other h') (below' name h)) (text_lt_irrefl name)
      subst first
      congr 1
      refine ih tail tail' fun a => ⟨fun h => ?_, fun h => ?_⟩
      · rcases List.mem_cons.mp ((same a).mp (List.mem_cons_of_mem _ h)) with rfl | h'
        · exact absurd (below a h) (text_lt_irrefl a)
        · exact h'
      · rcases List.mem_cons.mp ((same a).mpr (List.mem_cons_of_mem _ h)) with rfl | h'
        · exact absurd (below' a h) (text_lt_irrefl a)
        · exact h'

/-- A set of names is determined by its members. -/
theorem ext {names others : NameSet} (same : ∀ a, a ∈ names ↔ a ∈ others) :
  names = others
  := by
  cases names with
  | mk names sorted =>
    cases others with
    | mk others sorted' => simp only [toList_eq_of_mem_iff sorted sorted' same]

end NameSet

end Shortcode
