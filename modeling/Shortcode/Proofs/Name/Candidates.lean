import Mathlib.Tactic.Common
import Shortcode.Name.Candidates
import Shortcode.Proofs.Text.Readers

/-!
# Which names are candidates

The candidates of a text are the names that stand in it between an opening bracket and a
delimiter, or the end of the text (`mem_candidates_iff`).
-/

namespace Shortcode

/-- The text starts with the name and a delimiter behind it, or is the name. -/
def Delimited (name text : Text) : Prop :=
  ∃ behind, text = name ++ behind ∧ ∀ c ∈ behind.head?, isDelimiter c

/-- Somewhere in the text the name stands between an opening bracket and a delimiter, or the
end of the text. -/
def NamedIn (name text : Text) : Prop :=
  ∃ front rest, text = front ++ '[' :: rest ∧ Delimited name rest

/-- A delimiter does not stand in a name without delimiters. -/
theorem not_mem_of_plain {name : Text} (plain : ∀ c ∈ name, isDelimiter c = false) {d : Char}
    (delimiter : isDelimiter d) :
  d ∉ name
  := by
  intro inside
  rw [plain d inside] at delimiter
  contradiction

/-- A delimited name without delimiters is the longest one. -/
theorem delimited_iff_takeWhile {name text : Text} (plain : ∀ c ∈ name, isDelimiter c = false) :
  Delimited name text ↔ text.takeWhile (!isDelimiter ·) = name
  := by
  constructor
  · rintro ⟨behind, rfl, ends⟩
    rw [List.takeWhile_append_of_pos (by simpa using plain)]
    cases behind with
    | nil => simp
    | cons c behind =>
      have stop : isDelimiter c := ends c (by simp)
      simp [stop]
  · rintro rfl
    use text.dropWhile (!isDelimiter ·)
    constructor
    · rw [List.takeWhile_append_dropWhile]
    · intro c first
      have stop := List.head?_dropWhile_not (!isDelimiter ·) text
      rw [Option.mem_def] at first
      rw [first] at stop
      simpa using stop

theorem namedIn_cons_iff {name text : Text} {c : Char} :
  NamedIn name (c :: text) ↔ (c = '[' ∧ Delimited name text) ∨ NamedIn name text
  := by
  constructor
  · rintro ⟨front, rest, whole, delimited⟩
    cases front with
    | nil =>
      simp only [List.nil_append, List.cons.injEq] at whole
      obtain ⟨rfl, rfl⟩ := whole
      exact .inl ⟨rfl, delimited⟩
    | cons d front =>
      simp only [List.cons_append, List.cons.injEq] at whole
      exact .inr ⟨front, rest, whole.2, delimited⟩
  · rintro (⟨rfl, delimited⟩ | ⟨front, rest, rfl, delimited⟩)
    · exact ⟨[], text, rfl, delimited⟩
    · exact ⟨c :: front, rest, rfl, delimited⟩

/-- What is named in a text is named behind anything. -/
theorem NamedIn.append_left {name rest : Text} (named : NamedIn name rest) (front : Text) :
  NamedIn name (front ++ rest)
  := by
  obtain ⟨before, behind, rfl, delimited⟩ := named
  use front ++ before, behind
  simp [delimited]

/-- Without opening brackets nothing is named. -/
theorem not_namedIn_of_not_mem {name text : Text} (without : '[' ∉ text) :
  ¬ NamedIn name text
  := by
  rintro ⟨front, rest, rfl, -⟩
  apply without
  simp

/-- A beginning without opening brackets names nothing. -/
theorem namedIn_append_iff {name front rest : Text} (without : '[' ∉ front) :
  NamedIn name (front ++ rest) ↔ NamedIn name rest
  := by
  induction front with
  | nil => rfl
  | cons c front ih =>
    rw [List.mem_cons, not_or] at without
    rw [List.cons_append, namedIn_cons_iff, ih without.2]
    simp [Ne.symm without.1]

/-- A candidate is the longest name behind an opening bracket. -/
theorem eq_of_readCandidate {text name rest : Text}
    (found : readCandidate text = some (name, rest)) :
  text = '[' :: (name ++ rest) ∧ name ≠ []
    ∧ (name ++ rest).takeWhile (!isDelimiter ·) = name
  := by
  unfold readCandidate at found
  split at found
  · rename_i text
    split at found
    · contradiction
    · rename_i c longest taken
      obtain ⟨rfl, rfl⟩ := by simpa using found
      rw [← taken, List.takeWhile_append_dropWhile]
      refine ⟨rfl, ?_, rfl⟩
      rw [taken]
      apply List.cons_ne_nil
  · contradiction

/-- Behind an opening bracket that is passed over no name stands. -/
theorem takeWhile_eq_nil_of_readCandidate {text : Text}
    (declined : readCandidate ('[' :: text) = none) :
  text.takeWhile (!isDelimiter ·) = []
  := by
  simp only [readCandidate] at declined
  split at declined
  · assumption
  · contradiction

theorem consumes_readCandidate :
  Text.Consumes readCandidate
  := by
  intro text name rest found
  obtain ⟨rfl, -⟩ := eq_of_readCandidate found
  use '[' :: name
  simp

/-- The candidates are the names that stand between an opening bracket and a delimiter. -/
theorem mem_candidates_iff {name text : Text} :
  name ∈ candidates text
    ↔ name ≠ [] ∧ (∀ c ∈ name, isDelimiter c = false) ∧ NamedIn name text
  := by
  rw [candidates, NameSet.mem_ofList]
  induction text using Text.pieces_induction consumes_readCandidate with
  | nil =>
    simp only [Text.items_nil, List.not_mem_nil, false_iff, not_and]
    rintro - - ⟨front, rest, whole, -⟩
    simp at whole
  | skip c text declined ih =>
    rw [Text.items_of_skip declined, ih, namedIn_cons_iff]
    constructor
    · rintro ⟨nonempty, plain, named⟩
      exact ⟨nonempty, plain, .inr named⟩
    · rintro ⟨nonempty, plain, ⟨bracket, delimited⟩ | named⟩
      · rw [bracket] at declined
        rw [delimited_iff_takeWhile plain, takeWhile_eq_nil_of_readCandidate declined] at delimited
        apply absurd delimited.symm nonempty
      · exact ⟨nonempty, plain, named⟩
  | item front found rest nonempty read ih =>
    rw [Text.items_of_read nonempty read, List.mem_cons, ih]
    obtain ⟨whole, filled, longest⟩ := eq_of_readCandidate read
    have plain : ∀ c ∈ found, isDelimiter c = false := by
      intro c inside
      rw [← longest] at inside
      simpa using List.all_eq_true.mp List.all_takeWhile c inside
    have without : '[' ∉ found := not_mem_of_plain plain (by decide)
    rw [whole, namedIn_cons_iff, namedIn_append_iff without]
    constructor
    · rintro (rfl | ⟨nonempty', plain', named⟩)
      · exact ⟨filled, plain, .inl ⟨rfl, (delimited_iff_takeWhile plain).mpr longest⟩⟩
      · exact ⟨nonempty', plain', .inr named⟩
    · rintro ⟨nonempty', plain', ⟨-, delimited⟩ | named⟩
      · left
        rw [← (delimited_iff_takeWhile plain').mp delimited, longest]
      · exact .inr ⟨nonempty', plain', named⟩

end Shortcode
