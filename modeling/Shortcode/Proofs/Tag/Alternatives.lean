import Shortcode.Tag.Pattern

/-!
# Names told from a pattern

The pattern of a set of names belongs to no other set.  A character of a name is either written as
itself or behind a backslash, and a separator stands for itself nowhere in a name.  So a list of
alternatives is taken apart in one way only (`patternAlternatives_injective`), even if names
contain separators and backslashes, and two lists of names have the same pattern if and only if
they have the same members (`tagPattern_eq_iff`).
-/

namespace Shortcode

/-! ### Alternatives -/

/-- A character of a name as it is written in a pattern. -/
def patternChar (c : Char) : Text := if patternSpecials.elem c then ['\\', c] else [c]

/-- The alternatives of a pattern, each behind a separator. -/
def patternAlternatives (names : List Text) : Text :=
  names.flatMap fun name => '|' :: patternName name

/-- A text that may follow a name: it is empty, or a separator is its first character. -/
def EndsAlternative (text : Text) : Prop := ∀ c ∈ text.head?, c = '|'

theorem patternName_cons (c : Char) (name : Text) :
  patternName (c :: name) = patternChar c ++ patternName name
  := rfl

theorem endsAlternative_patternAlternatives (names : List Text) :
  EndsAlternative (patternAlternatives names)
  := by
  cases names with
  | nil => simp [EndsAlternative, patternAlternatives]
  | cons name names => simp [EndsAlternative, patternAlternatives]

/-- A name goes on where a character of it is written. -/
theorem not_endsAlternative_patternChar (c : Char) (text : Text) :
  ¬ EndsAlternative (patternChar c ++ text)
  := by
  intro ends
  unfold patternChar at ends
  split at ends
  · have := ends '\\' rfl
    contradiction
  · rename_i plain
    obtain rfl := ends c rfl
    contradiction

/-- Characters are told apart, whatever follows them. -/
theorem patternChar_append_inj {c d : Char} {rest rest' : Text}
    (same : patternChar c ++ rest = patternChar d ++ rest') :
  c = d ∧ rest = rest'
  := by
  have backslash : patternSpecials.elem '\\' := by decide
  unfold patternChar at same
  split at same
  · split at same
    · simpa using same
    · rename_i plain
      obtain ⟨rfl, -⟩ := List.cons_eq_cons.mp same
      contradiction
  · rename_i plain
    split at same
    · obtain ⟨rfl, -⟩ := List.cons_eq_cons.mp same
      contradiction
    · simpa using same

/-- The end of a name is found, if a separator or nothing follows it. -/
theorem patternName_append_inj {name other rest rest' : Text} (ends : EndsAlternative rest)
    (ends' : EndsAlternative rest')
    (same : patternName name ++ rest = patternName other ++ rest') :
  name = other ∧ rest = rest'
  := by
  induction name generalizing other with
  | nil =>
    cases other with
    | nil => exact ⟨rfl, same⟩
    | cons d other =>
      rw [patternName_cons, List.append_assoc] at same
      change rest = _ at same
      rw [same] at ends
      apply absurd ends (not_endsAlternative_patternChar d _)
  | cons c name ih =>
    rw [patternName_cons, List.append_assoc] at same
    cases other with
    | nil =>
      change _ = rest' at same
      rw [← same] at ends'
      apply absurd ends' (not_endsAlternative_patternChar c _)
    | cons d other =>
      rw [patternName_cons, List.append_assoc] at same
      obtain ⟨rfl, behind⟩ := patternChar_append_inj same
      obtain ⟨rfl, rest⟩ := ih behind
      exact ⟨rfl, rest⟩

/-- Alternatives are taken apart in one way. -/
theorem patternAlternatives_injective {names others : List Text}
    (same : patternAlternatives names = patternAlternatives others) :
  names = others
  := by
  induction names generalizing others with
  | nil =>
    cases others with
    | nil => rfl
    | cons other others => contradiction
  | cons name names ih =>
    cases others with
    | nil => contradiction
    | cons other others =>
      obtain ⟨-, behind⟩ := List.cons_eq_cons.mp same
      obtain ⟨rfl, rest⟩ := patternName_append_inj (endsAlternative_patternAlternatives names)
        (endsAlternative_patternAlternatives others) behind
      rw [ih rest]

/-- The names that are joined by separators are the alternatives, less the first separator. -/
theorem cons_join_patternName {names : List Text} (nonempty : names ≠ []) :
  '|' :: Text.join ['|'] (names.map patternName) = patternAlternatives names
  := by
  induction names with
  | nil => contradiction
  | cons name names ih =>
    cases names with
    | nil => simp [Text.join, patternAlternatives]
    | cons other names =>
      have step := ih (List.cons_ne_nil other names)
      rw [patternAlternatives, List.flatMap_cons]
      change _ = _ ++ patternAlternatives (other :: names)
      rw [← step]
      simp [Text.join]

/-! ### Patterns -/

/-- The pattern of a set that has a member. -/
theorem tagPattern_of_mem {names : NameSet} {name : Text} (inside : name ∈ names) :
  tagPattern names
    = .ok (patternOpening ++ Text.join ['|'] (names.toList.map patternName) ++ patternRest)
  := by
  rw [tagPattern, checkNames_eq_ok_iff.mpr ⟨name, inside⟩]
  rfl

/-- Two sets that have a member have the same pattern only if they are the same. -/
theorem eq_of_tagPattern_eq {names others : NameSet} {name other : Text} (inside : name ∈ names)
    (inside' : other ∈ others) (same : tagPattern names = tagPattern others) :
  names = others
  := by
  rw [tagPattern_of_mem inside, tagPattern_of_mem inside', Except.ok.injEq,
    List.append_cancel_right_eq, List.append_cancel_left_eq] at same
  have alternatives :
    patternAlternatives names.toList = patternAlternatives others.toList
    := by
    rw [← cons_join_patternName (List.ne_nil_of_mem inside), same,
      cons_join_patternName (List.ne_nil_of_mem inside')]
  apply NameSet.ext
  intro member
  rw [NameSet.mem_def, NameSet.mem_def, patternAlternatives_injective alternatives]

/-- Lists of names, in any order and with repetitions, have the same pattern if and only if they
have the same members. -/
theorem tagPattern_eq_iff {names others : List Text} (nonempty : names ≠ [])
    (nonempty' : others ≠ []) :
  ∃ source source', tagPattern (.ofList names) = .ok source
    ∧ tagPattern (.ofList others) = .ok source'
    ∧ (source = source' ↔ ∀ name, name ∈ names ↔ name ∈ others)
  := by
  obtain ⟨name, inside⟩ := List.exists_mem_of_ne_nil names nonempty
  obtain ⟨other, inside'⟩ := List.exists_mem_of_ne_nil others nonempty'
  have written := tagPattern_of_mem (NameSet.mem_ofList.mpr inside)
  have written' := tagPattern_of_mem (NameSet.mem_ofList.mpr inside')
  refine ⟨_, _, written, written', ?_⟩
  rw [← Except.ok.injEq (ε := Fault), ← written, ← written']
  constructor
  · intro same member
    rw [← NameSet.mem_ofList, ← @NameSet.mem_ofList member others]
    rw [eq_of_tagPattern_eq (NameSet.mem_ofList.mpr inside) (NameSet.mem_ofList.mpr inside') same]
  · intro same
    congr 1
    apply NameSet.ext
    intro member
    rw [NameSet.mem_ofList, NameSet.mem_ofList, same]

/-- One name with a separator in it against two names, one of them given twice, and the empty name
on both sides. -/
theorem tagPattern_eq_iff_of_separator :
  let names := ["a|b".toList, [], "\\".toList]
  let others := ["b".toList, "\\".toList, "a".toList, [], "b".toList]
  names ≠ []
    ∧ others ≠ []
    ∧ ∃ source source', tagPattern (.ofList names) = .ok source
      ∧ tagPattern (.ofList others) = .ok source'
      ∧ (source = source' ↔ ∀ name, name ∈ names ↔ name ∈ others)
  := by
  intro names others
  have nonempty : names ≠ [] := List.cons_ne_nil _ _
  have nonempty' : others ≠ [] := List.cons_ne_nil _ _
  exact ⟨nonempty, nonempty', tagPattern_eq_iff nonempty nonempty'⟩

end Shortcode
