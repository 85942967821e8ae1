import Shortcode.Proofs.Tag.Written

/-!
# A tag that runs over another one

Behind a name that is not delimited and a space stands a tag: `[a. [c/]`.  The closing bracket
of the tag also ends the attributes of a tag of the first name, which is the only one that is
found by all names together (`items_overrun`).  But the first name is no candidate here
(`namedIn_overrun_iff`), and without it the inner tag is found (`items_overrun_of_inner`).
-/

namespace Shortcode

/-- A name that is not delimited, a space, and a tag; the closing bracket of the tag also ends
the attributes of a tag of the name. -/
def overrun (outer inner : Text) : Text :=
  '[' :: (outer ++ ['.', ' '] ++ (Tag.closed inner []).render)

theorem overrun_eq (outer inner : Text) :
  overrun outer inner = '[' :: (outer ++ ['.'] ++ ' ' :: '[' :: (inner ++ ['/', ']']))
  := by simp [overrun, Tag.render_closed]

theorem overrun_eq_render (outer inner : Text) :
  overrun outer inner = (Tag.closed outer ('.' :: ' ' :: '[' :: inner)).render
  := by simp [overrun, Tag.render_closed]

variable {names : NameSet} {outer inner : Text}
  (plain : ∀ name ∈ names, name ≠ [] ∧ ∀ c ∈ name, isDelimiter c = false)
  (unhidden : ∀ name ∈ names, ∀ other ∈ names, ¬ Hides other name)
  (outside : outer ∈ names) (inside : inner ∈ names)

include unhidden outside

/-- The name with a dot behind it is no name, as the name would hide it. -/
theorem dotted_not_mem :
  outer ++ ['.'] ∉ names
  := by
  intro dotted
  apply unhidden _ dotted outer outside
  exact hides_append_singleton_iff.mpr (.inl ⟨rfl, by decide +kernel⟩)

/-- At the first bracket no tag but one of the outer name can be read. -/
theorem eq_of_opens_overrun {other : Text} (known : other ∈ names)
    (plain : ∀ c ∈ other, isDelimiter c = false)
    (opens : Tag.Opens other (outer ++ ['.'] ++ ' ' :: '[' :: (inner ++ ['/', ']']))) :
  other = outer
  := by
  have delimiting := delimiting_cons (c := ' ') (by decide) ('[' :: (inner ++ ['/', ']']))
  rcases (opens_append_iff plain delimiting (by simp)).mp opens with rfl | hides
  · apply absurd known (dotted_not_mem unhidden outside)
  · rcases hides_append_singleton_iff.mp hides with ⟨same, -⟩ | hides
    · apply same
    · apply absurd hides (unhidden outer outside other known)

include plain inside

/-- All names together find a single tag, of the outer name. -/
theorem items_overrun :
  Text.items (Tag.read names.toList) (overrun outer inner)
    = [.closed outer ('.' :: ' ' :: '[' :: inner)]
  := by
  have unopened := not_mem_of_plain (plain outer outside).2 (d := '[') (by decide)
  have unclosed := not_mem_of_plain (plain inner inside).2 (d := ']') (by decide)
  have boundary : Tag.endsName ('.' :: ' ' :: '[' :: inner) := by
    have dot : isNameChar '.' = false := by decide +kernel
    simp [Tag.endsName, dot]
  have legible : (Tag.closed outer ('.' :: ' ' :: '[' :: inner)).Legible [] :=
    Tag.legible_closed boundary (by simpa using unclosed) (by simp)
  have read : Tag.read names.toList (overrun outer inner ++ [])
      = some (.closed outer ('.' :: ' ' :: '[' :: inner), []) := by
    rw [overrun_eq_render]
    apply Tag.read_render rfl (plain outer outside).1 unopened legible outside
    intro other known opens
    have opens' : Tag.Opens other (outer ++ ['.'] ++ ' ' :: '[' :: (inner ++ ['/', ']'])) := by
      simpa [Tag.closed, Body.render, Tag.closer] using opens
    rw [eq_of_opens_overrun unhidden outside known (plain other known).2 opens']
    apply Nat.le_refl
  rw [overrun_eq_render] at read ⊢
  apply Tag.items_render read

/-- The candidates among the names are the inner one alone. -/
theorem namedIn_overrun_iff {other : Text} (known : other ∈ names) :
  NamedIn other (overrun outer inner) ↔ other = inner
  := by
  have plain' := (plain other known).2
  have dotted : ∀ c ∈ outer ++ ['.'], isDelimiter c = false := by
    intro c member
    rcases List.mem_append.mp member with member | member
    · apply (plain outer outside).2 c member
    · rw [List.mem_singleton.mp member]
      decide
  have first := @namedIn_written_iff [] _ other _ (by simp) dotted plain'
    (delimiting_cons (c := ' ') (by decide) ('[' :: (inner ++ ['/', ']'])))
  have second := @namedIn_written_iff [' '] _ other _ (by simp) (plain inner inside).2 plain'
    (delimiting_cons (c := '/') (by decide) [']'])
  rw [List.nil_append] at first
  rw [List.singleton_append] at second
  rw [overrun_eq, first, second]
  constructor
  · rintro (rfl | same | named)
    · apply absurd known (dotted_not_mem unhidden outside)
    · apply same
    · apply absurd named (not_namedIn_of_not_mem (by simp))
  · intro same
    exact .inr (.inl same)

/-- The inner name alone finds the inner tag. -/
theorem items_overrun_of_inner (ne : outer ≠ inner) {sought : NameSet}
    (only : ∀ other, other ∈ sought ↔ other = inner) :
  Text.items (Tag.read sought.toList) (overrun outer inner) = [.closed inner []]
  := by
  have member := (only inner).mpr rfl
  have unopened := not_mem_of_plain (plain outer outside).2 (d := '[') (by decide)
  have declined : Tag.read sought.toList (overrun outer inner) = none := by
    rw [overrun_eq, Tag.read_eq_none_iff]
    intro other found
    obtain rfl := (only other).mp found
    constructor
    · intro opens
      exact ne (eq_of_opens_overrun unhidden outside inside (plain other inside).2 opens).symm
    · obtain ⟨c, behind, rfl⟩ := List.exists_cons_of_ne_nil (plain outer outside).1
      intro text' whole
      obtain ⟨rfl, -⟩ := List.cons_eq_cons.mp whole
      simp at unopened
  have read : Tag.read sought.toList ((Tag.closed inner []).render ++ [])
      = some (.closed inner [], []) := by
    apply Tag.read_of_unhidden rfl (plain inner inside).1 _
      (Tag.legible_closed rfl (by simp) (by simp)) member
    · rintro c ⟨⟩
    · intro other found
      rw [(only other).mp found]
      apply unhidden inner inside inner inside
    · intro other found
      rw [(only other).mp found]
      apply (plain inner inside).2
  have without : '[' ∉ outer ++ ['.', ' '] := by simpa using unopened
  have found := Tag.items_written without read
  rw [List.append_nil] at found
  rw [overrun, Text.items_of_skip declined]
  apply found

end Shortcode
