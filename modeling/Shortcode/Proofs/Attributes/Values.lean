import Mathlib.Tactic.Common
import Shortcode.Attributes.Parse

/-!
# The values that are kept

A value is kept if it closes the markup that it opens (`closesMarkup_iff`), and of several values
under one key the first one is (`Entries.foldl_putNew`).
-/

namespace Shortcode

/-! ### Markup -/

/-- Every `<` of the text has a `>` somewhere behind it. -/
def MarkupClosed (text : Text) : Prop :=
  ∀ front rest, text = front ++ '<' :: rest → '>' ∈ rest

theorem markupClosed_cons_iff {c : Char} {text : Text} :
  MarkupClosed (c :: text) ↔ (c = '<' → '>' ∈ text) ∧ MarkupClosed text
  := by
  constructor
  · intro closed
    constructor
    · rintro rfl
      apply closed [] text rfl
    · rintro front rest rfl
      apply closed (c :: front) rest rfl
  · rintro ⟨here, behind⟩ front rest split
    cases front with
    | nil =>
      obtain ⟨rfl, rfl⟩ := List.cons_eq_cons.mp split
      apply here rfl
    | cons d front =>
      obtain ⟨-, rfl⟩ := List.cons_eq_cons.mp split
      apply behind front rest rfl

theorem closesMarkupAfter_iff {inside : Bool} {text : Text} :
  closesMarkupAfter inside text ↔ (inside → '>' ∈ text) ∧ MarkupClosed text
  := by
  induction text generalizing inside with
  | nil => simp [closesMarkupAfter, MarkupClosed]
  | cons c text ih =>
    rw [markupClosed_cons_iff, List.mem_cons, closesMarkupAfter]
    by_cases close : c = '>'
    · subst close
      cases inside <;> simp [ih]
    · cases inside with
      | false => simp [ih]
      | true =>
        simp only [if_true, ih, bne_iff_ne, ne_eq, close, Ne.symm close, not_false_eq_true,
          true_implies, false_or]
        tauto

/-- A value is kept if and only if each of its `<` has a `>` behind it. -/
theorem closesMarkup_iff {text : Text} :
  closesMarkup text ↔ MarkupClosed text
  := by
  rw [closesMarkup, closesMarkupAfter_iff]
  simp

instance (text : Text) : Decidable (MarkupClosed text) := decidable_of_iff _ closesMarkup_iff

/-! ### First entries -/

namespace Entries

variable {α β : Type}

/-- The entries of pairs that may repeat a key: the first pair under a key counts, and keys are
in the order in which they first occur. -/
def firsts : List (Text × α) → Entries α
  | [] => []
  | (key, value) :: pairs => (key, value) :: (firsts pairs).erase key

theorem has_append_singleton {key other : Text} {value : α} {entries : Entries α} :
  has other (entries ++ [(key, value)]) = (entries.has other || decide (other = key))
  := by
  rw [Bool.eq_iff_iff, has_iff_mem_keys, Bool.or_eq_true, has_iff_mem_keys]
  simp [keys]

/-- Putting pairs under keys that have no value yet adds their first entries. -/
theorem foldl_putNew (pairs : List (Text × α)) (entries : Entries α) :
  pairs.foldl (fun entries pair => entries.putNew pair.1 pair.2) entries
    = entries ++ (firsts pairs).filter fun entry => !entries.has entry.1
  := by
  induction pairs generalizing entries with
  | nil => simp [firsts]
  | cons pair pairs ih =>
    obtain ⟨key, value⟩ := pair
    rw [List.foldl_cons, ih, putNew, firsts, erase, List.filter_cons, List.filter_filter]
    cases present : entries.has key with
    | true =>
      have same : ∀ entry ∈ firsts pairs, (!entries.has entry.1)
          = ((!entries.has entry.1) && decide (entry.1 ≠ key)) := by
        intro entry _
        by_cases here : entry.1 = key
        · simp [here, present]
        · simp [here]
      simp only [if_true, Bool.not_true, Bool.false_eq_true, if_false]
      rw [List.filter_congr same]
    | false =>
      have same : ∀ entry ∈ firsts pairs, (!has entry.1 (entries ++ [(key, value)]))
          = ((!entries.has entry.1) && decide (entry.1 ≠ key)) := by
        intro entry _
        rw [has_append_singleton, Bool.not_or, decide_not]
      simp only [Bool.false_eq_true, if_false, Bool.not_false, if_true]
      rw [List.filter_congr same, List.append_assoc]
      rfl

/-- A last pair is put under its key if no pair before it has the key. -/
theorem firsts_concat (pairs : List (Text × α)) (pair : Text × α) :
  firsts (pairs ++ [pair]) = putNew pair.1 pair.2 (firsts pairs)
  := by
  have put : ∀ pairs : List (Text × α),
      pairs.foldl (fun entries pair => putNew pair.1 pair.2 entries) [] = firsts pairs := by
    intro pairs
    rw [foldl_putNew]
    simp [has, get?]
  rw [← put, List.foldl_append, put]
  rfl

theorem has_map (f : α → β) (key : Text) (entries : Entries α) :
  has key (entries.map fun entry => (entry.1, f entry.2)) = entries.has key
  := by
  rw [Bool.eq_iff_iff, has_iff_mem_keys, has_iff_mem_keys, keys, keys, List.map_map]
  rfl

/-- Values may be changed before they are put under a key, or behind that. -/
theorem map_putNew (f : α → β) (key : Text) (value : α) (entries : Entries α) :
  (entries.putNew key value).map (fun entry => (entry.1, f entry.2))
    = putNew key (f value) (entries.map fun entry => (entry.1, f entry.2))
  := by
  rw [putNew, putNew, has_map]
  split
  · rfl
  · rw [List.map_append]
    rfl

end Entries

end Shortcode
