/-!
# Sets of characters given by blocks

A character class of the standard is a set of code points, written down as the list of its
blocks: the first and the last code point of each, in increasing order.  `Blocks.contains`
looks a code point up and stops at the first block that starts beyond it, so the classes
are cheap on the characters that are frequent.  The order is a part of the table, so the look-up
finds the members of each table and nothing else (`Blocks.contains_iff`).
-/

namespace Shortcode

/-- A block of code points: its first and its last member. -/
abbrev Block : Type := Nat × Nat

namespace Block

/-- The blocks are in increasing order, none of them starting below `bound`. -/
def inOrder (bound : Nat) : List Block → Bool
  | [] => true
  | (first, last) :: rest =>
    decide (bound ≤ first) && decide (first ≤ last) && inOrder (last + 1) rest

/-- `n` lies in one of the blocks, which are in increasing order. -/
def anyContains : List Block → Nat → Bool
  | [], _ => false
  | (first, last) :: rest, n =>
    if n < first then false else if n ≤ last then true else anyContains rest n

/-- No block starts below the bound. -/
theorem bound_le_of_inOrder {bound : Nat} {blocks : List Block} (ordered : inOrder bound blocks)
    {block : Block} (inside : block ∈ blocks) :
  bound ≤ block.1
  := by
  induction blocks generalizing bound with
  | nil => simp at inside
  | cons front rest ih =>
    obtain ⟨first, last⟩ := front
    simp only [inOrder, Bool.and_eq_true, decide_eq_true_eq] at ordered
    rcases List.mem_cons.mp inside with rfl | inside
    · exact ordered.1.1
    · have := ih ordered.2 inside
      omega

/-- The look-up finds the members of blocks in increasing order and nothing else. -/
theorem anyContains_iff {bound : Nat} {blocks : List Block} (ordered : inOrder bound blocks)
    (n : Nat) :
  anyContains blocks n ↔ ∃ block ∈ blocks, block.1 ≤ n ∧ n ≤ block.2
  := by
  induction blocks generalizing bound with
  | nil => simp [anyContains]
  | cons front rest ih =>
    obtain ⟨first, last⟩ := front
    simp only [inOrder, Bool.and_eq_true, decide_eq_true_eq] at ordered
    simp only [anyContains, List.mem_cons]
    split
    · rename_i below
      simp only [Bool.false_eq_true, false_iff, not_exists, not_and]
      rintro block (rfl | inside) start
      · omega
      · have := bound_le_of_inOrder ordered.2 inside
        omega
    · split
      · simp only [true_iff]
        exact ⟨(first, last), Or.inl rfl, by omega, by omega⟩
      · rw [ih ordered.2]
        constructor
        · rintro ⟨block, inside, bounds⟩
          exact ⟨block, Or.inr inside, bounds⟩
        · rintro ⟨block, rfl | inside, bounds⟩
          · omega
          · exact ⟨block, inside, bounds⟩

end Block

/-- A set of code points, as its blocks in increasing order. -/
structure Blocks where
  toList : List Block
  inOrder : Block.inOrder 0 toList

namespace Blocks

/-- `n` lies in one of the blocks. -/
def contains (blocks : Blocks) (n : Nat) : Bool := Block.anyContains blocks.toList n

theorem contains_iff (blocks : Blocks) (n : Nat) :
  blocks.contains n ↔ ∃ block ∈ blocks.toList, block.1 ≤ n ∧ n ≤ block.2
  := Block.anyContains_iff blocks.inOrder n

end Blocks

end Shortcode
