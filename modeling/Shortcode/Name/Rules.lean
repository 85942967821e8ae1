import Shortcode.Char.Blank
import Shortcode.Char.Word
import Shortcode.Fault
import Shortcode.Name.Set

/-!
# Rules for names

A shortcode can be registered under a name that is not blank and contains no reserved
character: no blank one, no control character, and none of the characters that tags are
made of.  `nameFlaw?` finds what is wrong with a name; `nameFlaw?_eq_none_iff` says when
nothing is.

Tags are looked for by their names, whether registered or not, but not by no name at all:
`checkNames` refuses the empty set.
-/

namespace Shortcode

/-- `c` cannot stand in a name that is looked for in a text: it is a control character of
the first block, the plain space, or one of `< > & / [ ] =`. -/
def isDelimiter (c : Char) : Bool := c.toNat ≤ 0x20 || "<>&/[]=".toList.elem c

/-- `c` cannot stand in a registered name: it is a delimiter or blank. -/
def isReserved (c : Char) : Bool := isDelimiter c || isBlank c

/-- What is wrong with a name, if anything is. -/
def nameFlaw? (name : Text) : Option NameFlaw :=
  if name.all isBlank then some .blank
  else if name.any isReserved then some .reserved
  else none

/-- Refuse a name that cannot be registered. -/
def checkName (name : Text) : Except Fault Unit :=
  match nameFlaw? name with
  | some flaw => .error (.invalidName name flaw)
  | none => .ok ()

/-- Refuse a set of names by which no tag can be looked for, since it has no members. -/
def checkNames (names : NameSet) : Except Fault Unit :=
  if names.isEmpty then .error .noTagNames else .ok ()

/-- Tags can be looked for by any set that has a member. -/
theorem checkNames_eq_ok_iff {names : NameSet} :
  checkNames names = .ok () ↔ ∃ name, name ∈ names
  := by
  rw [← NameSet.isEmpty_eq_false_iff, checkNames]
  cases names.isEmpty <;> simp

/-- A name can be registered exactly if it has characters and none of them is reserved. -/
theorem nameFlaw?_eq_none_iff {name : Text} :
  nameFlaw? name = none ↔ name ≠ [] ∧ ∀ c ∈ name, isReserved c = false
  := by
  unfold nameFlaw?
  split
  · rename_i blank
    simp only [reduceCtorEq, ne_eq, false_iff, not_and]
    intro nonempty plain
    cases name with
    | nil => exact nonempty rfl
    | cons c name =>
      have := plain c List.mem_cons_self
      simp_all [isReserved]
  · rename_i notBlank
    split
    · rename_i reserved
      obtain ⟨c, inside, bad⟩ := List.any_eq_true.mp reserved
      simp only [reduceCtorEq, ne_eq, false_iff, not_and]
      intro _ plain
      simp [plain c inside] at bad
    · rename_i plain
      simp only [true_iff]
      constructor
      · rintro rfl
        simp at notBlank
      · intro c inside
        simpa using fun h => plain (List.any_eq_true.mpr ⟨c, inside, h⟩)

end Shortcode
