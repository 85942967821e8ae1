import Shortcode.Text.Basic

/-!
# Cuts and quantifiers

A loop over a text takes one character after the other and may stop behind any of them, so it can
cut the text at several places.  A quantifier says which of these cuts are tried for what has to
follow the loop, and in which order: greedy ones start with the longest cut and lazy ones with the
shortest, and possessive ones stay with the longest.  If what has to follow can only follow the
longest cut, then all quantifiers find the same (`Quantifier.findSome?_tried`).
-/

namespace Shortcode

/-- What a loop takes of a text, and the text behind. -/
abbrev Cut : Type := Text × Text

/-- The cuts that a loop can make, the shortest one first.  The loop may take the character `c` in
front of `text` if `goesOn c text`. -/
def cuts (goesOn : Char → Text → Bool) : Text → List Cut
  | [] => [([], [])]
  | c :: text =>
    ([], c :: text) ::
      if goesOn c text then (cuts goesOn text).map fun (taken, rest) => (c :: taken, rest) else []

section

variable {goesOn : Char → Text → Bool} {text taken rest : Text}

theorem nil_mem_cuts_iff :
  ([], rest) ∈ cuts goesOn text ↔ text = rest
  := by
  cases text with
  | nil => simp [cuts, eq_comm]
  | cons c text =>
    simp only [cuts, List.mem_cons, Prod.mk.injEq, true_and]
    split <;> simp [eq_comm]

theorem cons_mem_cuts_iff {c : Char} :
  (c :: taken, rest) ∈ cuts goesOn text
    ↔ ∃ behind, text = c :: behind ∧ goesOn c behind ∧ (taken, rest) ∈ cuts goesOn behind
  := by
  cases text with
  | nil => simp [cuts]
  | cons d text =>
    simp only [cuts, List.mem_cons, Prod.mk.injEq, reduceCtorEq, false_and, false_or]
    split
    · rename_i more
      simp only [List.mem_map, Prod.mk.injEq, Prod.exists]
      constructor
      · rintro ⟨taken', rest', inside, same, rfl⟩
        obtain ⟨rfl, rfl⟩ := List.cons_eq_cons.mp same
        exact ⟨text, rfl, more, inside⟩
      · rintro ⟨behind, same, -, inside⟩
        obtain ⟨rfl, rfl⟩ := List.cons_eq_cons.mp same
        exact ⟨taken, rest, inside, rfl, rfl⟩
    · rename_i stop
      simp only [List.not_mem_nil, false_iff]
      rintro ⟨behind, same, more, -⟩
      obtain ⟨rfl, rfl⟩ := List.cons_eq_cons.mp same
      contradiction

/-- A loop can take a beginning of the text if it may take each of its characters in front of what
is behind the character. -/
theorem mem_cuts_iff :
  (taken, rest) ∈ cuts goesOn text
    ↔ text = taken ++ rest
      ∧ ∀ place c, taken[place]? = some c → goesOn c (text.drop (place + 1))
  := by
  induction taken generalizing text with
  | nil => simp [nil_mem_cuts_iff]
  | cons d taken ih =>
    rw [cons_mem_cuts_iff]
    constructor
    · rintro ⟨behind, rfl, more, inside⟩
      obtain ⟨rfl, others⟩ := ih.mp inside
      refine ⟨rfl, ?_⟩
      intro place c here
      cases place with
      | zero =>
        obtain rfl : d = c := by simpa using here
        apply more
      | succ place => apply others place c here
    · rintro ⟨rfl, each⟩
      refine ⟨taken ++ rest, rfl, each 0 d rfl, ih.mpr ⟨rfl, ?_⟩⟩
      intro place c here
      apply each (place + 1) c here

/-- A cut is the longest one if the loop may not take the character behind it. -/
theorem getLast?_cuts (inside : (taken, rest) ∈ cuts goesOn text)
    (stop : ∀ c later, rest = c :: later → goesOn c later = false) :
  (cuts goesOn text).getLast? = some (taken, rest)
  := by
  induction taken generalizing text with
  | nil =>
    obtain rfl := nil_mem_cuts_iff.mp inside
    cases text with
    | nil => rfl
    | cons c text => simp [cuts, stop c text rfl]
  | cons c taken ih =>
    obtain ⟨behind, rfl, more, inside⟩ := cons_mem_cuts_iff.mp inside
    have last := ih inside
    rw [cuts, if_pos more, List.getLast?_cons, List.getLast?_map, last]
    rfl

end

/-! ### Quantifiers -/

/-- The quantifier of a loop chooses which cuts are tried, and in which order.  It does not leave
the longest one out. -/
structure Quantifier where
  tried : List Cut → List Cut
  mem_of_mem_tried : ∀ {cuts cut}, cut ∈ tried cuts → cut ∈ cuts
  mem_tried_of_getLast? : ∀ {cuts cut}, cuts.getLast? = some cut → cut ∈ tried cuts

namespace Quantifier

/-- Try the longest cut first, and then shorter ones. -/
def greedy : Quantifier where
  tried := List.reverse
  mem_of_mem_tried := List.mem_reverse.mp
  mem_tried_of_getLast? last := List.mem_reverse.mpr (List.mem_of_getLast? last)

/-- Try the shortest cut first, and then longer ones. -/
def lazy : Quantifier where
  tried := id
  mem_of_mem_tried := id
  mem_tried_of_getLast? := List.mem_of_getLast?

/-- Try the longest cut, and no other. -/
def possessive : Quantifier where
  tried cuts := cuts.getLast?.toList
  mem_of_mem_tried inside := List.mem_of_getLast? (Option.mem_toList.mp inside)
  mem_tried_of_getLast? := Option.mem_toList.mpr

variable {α : Type}

/-- A quantifier has the result that the longest cut gives, if no other cut gives another one. -/
theorem findSome?_tried (quantifier : Quantifier) {cuts : List Cut} {finish : Cut → Option α}
    {result : Option α}
    (found : ∀ a, result = some a → ∃ cut, cuts.getLast? = some cut ∧ finish cut = some a)
    (sound : ∀ cut ∈ cuts, ∀ a, finish cut = some a → result = some a) :
  (quantifier.tried cuts).findSome? finish = result
  := by
  cases given : (quantifier.tried cuts).findSome? finish with
  | none =>
    rw [List.findSome?_eq_none_iff] at given
    symm
    rw [Option.eq_none_iff_forall_ne_some]
    intro a present
    obtain ⟨cut, last, finished⟩ := found a present
    have := given cut (quantifier.mem_tried_of_getLast? last)
    rw [this] at finished
    contradiction
  | some a =>
    obtain ⟨cut, inside, finished⟩ := List.exists_of_findSome?_eq_some given
    exact (sound cut (quantifier.mem_of_mem_tried inside) a finished).symm

end Quantifier

end Shortcode
