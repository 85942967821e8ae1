import Mathlib.Order.WellFounded
import Shortcode.Proofs.Name.Candidates
import Shortcode.Proofs.Tag.Legible

/-!
# Names that hide other names

A tag of one name may be read where the tag of another one is written.  With the names `a` and
`a.b`, the tag `[a.b]` has the name `a`, since a dot does not continue a name: `a` hides `a.b`.
In front of a delimiter, a name is open to itself and to the names that hide it, and to no others
(`opens_append_iff`).  The shortest of these is the one that is read; `ReadAs` says which it is.
-/

namespace Shortcode

/-- The longer name continues the shorter one by a character that does not continue names. -/
def Hides (short long : Text) : Prop :=
  ∃ c behind, long = short ++ c :: behind ∧ isNameChar c = false

/-- No delimiter continues a name. -/
theorem isNameChar_of_isDelimiter {c : Char} (delimiter : isDelimiter c) :
  isNameChar c = false
  := by
  rw [isDelimiter, Bool.or_eq_true, decide_eq_true_eq] at delimiter
  rcases delimiter with low | mark
  · rw [isNameChar, Bool.or_eq_false_iff]
    constructor
    · rw [beq_eq_false_iff_ne]
      rintro rfl
      contradiction
    · -- The first word characters are the digits.
      rw [isWord, Blocks.contains, wordBlocks, Block.anyContains, if_pos (by omega)]
  · have marks : "<>&/[]=".toList.all (!isNameChar ·) := by decide +kernel
    simpa using List.all_eq_true.mp marks c (List.elem_iff.mp mark)

theorem isDelimiter_of_isNameChar {c : Char} (continues : isNameChar c) :
  isDelimiter c = false
  := by
  rw [Bool.eq_false_iff]
  intro delimiter
  rw [isNameChar_of_isDelimiter delimiter] at continues
  contradiction

/-- A name of characters that continue names is hidden by no other. -/
theorem not_hides_of_isNameChar {name : Text} (continues : ∀ c ∈ name, isNameChar c)
    (other : Text) :
  ¬ Hides other name
  := by
  rintro ⟨c, behind, rfl, ends⟩
  have := continues c (by simp)
  rw [ends] at this
  contradiction

/-- A name that is hidden by another one is longer. -/
theorem length_lt_of_hides {short long : Text} (hides : Hides short long) :
  short.length < long.length
  := by
  obtain ⟨c, behind, rfl, -⟩ := hides
  simp

/-- A name with one more character is hidden by what hides the name, and by the name itself if
the character does not continue it. -/
theorem hides_append_singleton_iff {short name : Text} {c : Char} :
  Hides short (name ++ [c]) ↔ short = name ∧ isNameChar c = false ∨ Hides short name
  := by
  constructor
  · rintro ⟨d, behind, split, ends⟩
    rcases List.append_eq_append_iff.mp split with ⟨middle, rfl, last⟩ | ⟨middle, rfl, rest⟩
    · obtain ⟨rfl, same⟩ : middle = [] ∧ [c] = d :: behind := by
        cases middle <;> simp_all
      obtain ⟨rfl, -⟩ := List.cons_eq_cons.mp same
      exact .inl ⟨by simp, ends⟩
    · cases middle with
      | nil =>
        obtain ⟨rfl, -⟩ := List.cons_eq_cons.mp rest
        exact .inl ⟨by simp, ends⟩
      | cons e middle =>
        obtain ⟨rfl, -⟩ := List.cons_eq_cons.mp rest
        exact .inr ⟨d, middle, rfl, ends⟩
  · rintro (⟨rfl, ends⟩ | ⟨d, behind, rfl, ends⟩)
    · exact ⟨c, [], rfl, ends⟩
    · exact ⟨d, behind ++ [c], by simp, ends⟩

/-! ### Names in front of delimiters -/

/-- The text is empty or starts with a delimiter, so that any name in front of it is complete. -/
def Delimiting (text : Text) : Prop := ∀ c ∈ text.head?, isDelimiter c

theorem delimiting_cons {c : Char} (delimiter : isDelimiter c) (text : Text) :
  Delimiting (c :: text)
  := by
  rintro d ⟨⟩
  apply delimiter

theorem Delimiting.append {front rest : Text} (first : Delimiting front)
    (second : Delimiting rest) :
  Delimiting (front ++ rest)
  := by
  cases front with
  | nil => apply second
  | cons c front => apply delimiting_cons (first c rfl)

theorem Delimiting.endsName {text : Text} (delimiting : Delimiting text) :
  Tag.endsName text
  := by
  cases text with
  | nil => rfl
  | cons c text => simpa [Tag.endsName] using isNameChar_of_isDelimiter (delimiting c rfl)

/-- Behind an opening bracket, a name and a delimiter, a tag can be read by that name and by
those that hide it. -/
theorem opens_append_iff {name other behind : Text}
    (plain : ∀ c ∈ other, isDelimiter c = false) (delimiting : Delimiting behind)
    (closed : ']' ∈ behind) :
  Tag.Opens other (name ++ behind) ↔ other = name ∨ Hides other name
  := by
  constructor
  · rintro ⟨behind', whole, ends, -⟩
    rcases List.append_eq_append_iff.mp whole with ⟨middle, rfl, rfl⟩ | ⟨middle, rfl, rfl⟩
    · cases middle with
      | nil => simp
      | cons c middle =>
        have delimiter : isDelimiter c := delimiting c rfl
        rw [plain c (by simp)] at delimiter
        contradiction
    · cases middle with
      | nil => simp
      | cons c middle =>
        right
        use c, middle, rfl
        simpa [Tag.endsName] using ends
  · rintro (rfl | ⟨c, middle, rfl, ends⟩)
    · exact ⟨behind, rfl, delimiting.endsName, closed⟩
    · refine ⟨c :: middle ++ behind, by simp, ?_, by simp [closed]⟩
      simpa [Tag.endsName] using ends

/-- A delimited name without delimiters is the only such one that stands there. -/
theorem delimited_append_iff {name other behind : Text}
    (plain : ∀ c ∈ name, isDelimiter c = false) (plain' : ∀ c ∈ other, isDelimiter c = false)
    (delimiting : Delimiting behind) :
  Delimited other (name ++ behind) ↔ other = name
  := by
  have longest := (delimited_iff_takeWhile plain).mp ⟨behind, rfl, delimiting⟩
  rw [delimited_iff_takeWhile plain', longest, eq_comm]

theorem namedIn_opening (name : Text) {behind : Text} (delimiting : Delimiting behind) :
  NamedIn name ('[' :: (name ++ behind))
  := ⟨[], name ++ behind, rfl, behind, rfl, delimiting⟩

/-- What a written tag names: its own name, and what is named behind it. -/
theorem namedIn_written_iff {front name other behind : Text} (without : '[' ∉ front)
    (plain : ∀ c ∈ name, isDelimiter c = false) (plain' : ∀ c ∈ other, isDelimiter c = false)
    (delimiting : Delimiting behind) :
  NamedIn other (front ++ '[' :: (name ++ behind)) ↔ other = name ∨ NamedIn other behind
  := by
  rw [namedIn_append_iff without, namedIn_cons_iff, delimited_append_iff plain plain' delimiting,
    namedIn_append_iff (not_mem_of_plain plain (by decide))]
  simp

/-! ### The name that is read -/

/-- Where the name is written in front of a delimiter, the name that is read, and the rest of
the written name, which goes to the attributes. -/
structure ReadAs (names : NameSet) (name short rest : Text) : Prop where
  member : short ∈ names
  split : name = short ++ rest
  ends : Tag.endsName rest
  shortest : ∀ other ∈ names, other = name ∨ Hides other name → short.length ≤ other.length

/-- Any member of a set of names is read as one of them. -/
theorem exists_readAs {names : NameSet} {name : Text} (inside : name ∈ names) :
  ∃ short rest, ReadAs names name short rest
  := by
  let open' : Set Text := {other | other ∈ names ∧ (other = name ∨ Hides other name)}
  obtain ⟨short, ⟨member, fits⟩, least⟩ :=
    (measure List.length).wf.has_min open' ⟨name, inside, .inl rfl⟩
  have shortest : ∀ other ∈ names, other = name ∨ Hides other name →
      short.length ≤ other.length := by
    intro other inside' fits'
    exact Nat.le_of_not_lt (least other ⟨inside', fits'⟩)
  rcases fits with rfl | ⟨c, behind, rfl, ends⟩
  · use short, []
    exact ⟨member, by simp, rfl, shortest⟩
  · use short, c :: behind
    exact ⟨member, rfl, by simpa [Tag.endsName] using ends, shortest⟩

/-- A name is read as itself exactly if none of the names hides it. -/
theorem ReadAs.eq_self_iff {names : NameSet} {name short rest : Text}
    (readAs : ReadAs names name short rest) :
  short = name ↔ ∀ other ∈ names, ¬ Hides other name
  := by
  obtain ⟨member, rfl, ends, shortest⟩ := readAs
  constructor
  · intro self other inside hides
    have := shortest other inside (.inr hides)
    have := length_lt_of_hides hides
    rw [← self] at this
    omega
  · intro unhidden
    cases rest with
    | nil => simp
    | cons c behind =>
      apply absurd _ (unhidden short member)
      use c, behind, rfl
      simpa [Tag.endsName] using ends

end Shortcode
