import Shortcode.Proofs.Text.Marks
import Shortcode.Proofs.Text.Readers
import Shortcode.Text.References

/-!
# Restored brackets

`restoreBrackets` replaces the references to opening brackets first, and those to closing brackets
in what this gives.  A bracket that has been written is part of no reference, and neither reference
begins within the other one, so the two replacements do not meet: the result is that of replacing
both at once (`restoreBrackets_eq`), and no reference is left in it (`restored_restoreBrackets`).
-/

namespace Shortcode

namespace Text

/-! ### Replacing items by characters -/

/-- The text with each item that is read replaced by a character. -/
def replaceItems {α : Type} (read : Text → Option (α × Text)) (write : α → Char) (text : Text) :
    Text :=
  (pieces read text).flatMap (Piece.render fun a => [write a])

/-- Read a mark. -/
def readMark (mark text : Text) : Option (Unit × Text) := (after? mark text).map ((), ·)

theorem replaceAll_singleton (mark : Text) (c : Char) :
  replaceAll mark [c] = replaceItems (readMark mark) fun _ => c
  := rfl

section

variable {α : Type} {read : Text → Option (α × Text)} {write : α → Char} {mark text rest : Text}

theorem replaceItems_of_skip {c : Char} (declined : read (c :: text) = none) :
  replaceItems read write (c :: text) = c :: replaceItems read write text
  := by
  rw [replaceItems, pieces_of_skip declined]
  rfl

theorem replaceItems_of_read {front : Text} {a : α} (nonempty : front ≠ [])
    (found : read (front ++ rest) = some (a, rest)) :
  replaceItems read write (front ++ rest) = write a :: replaceItems read write rest
  := by
  rw [replaceItems, pieces_of_read nonempty found]
  rfl

/-- A text in which nothing is read is left as it is. -/
theorem replaceItems_of_declined (declined : ∀ behind, behind <:+ text → read behind = none) :
  replaceItems read write text = text
  := by
  induction text with
  | nil => rfl
  | cons c text ih =>
    rw [replaceItems_of_skip (declined _ List.suffix_rfl), ih]
    intro behind part
    apply declined behind
    apply List.suffix_cons_iff.mpr (.inr part)

/-- A mark that contains none of the characters that are written was there before. -/
theorem prefix_of_prefix_replaceItems (consumes : Consumes read) (absent : ∀ a, write a ∉ mark)
    (start : mark <+: replaceItems read write text) :
  mark <+: text
  := by
  induction mark generalizing text with
  | nil => apply List.nil_prefix
  | cons m mark ih =>
    cases text using pieces_induction consumes with
    | nil =>
      have := List.prefix_nil.mp start
      contradiction
    | skip c text declined =>
      rw [replaceItems_of_skip declined, List.cons_prefix_cons] at start
      have absent' : ∀ a, write a ∉ mark := fun a inside => absent a (List.mem_cons_of_mem m inside)
      rw [List.cons_prefix_cons]
      exact ⟨start.1, ih absent' start.2⟩
    | item front a rest nonempty found =>
      rw [replaceItems_of_read nonempty found, List.cons_prefix_cons] at start
      apply absurd _ (absent a)
      rw [start.1]
      apply List.mem_cons_self

/-- A mark that contains none of the characters that are written is not left, if an item is read
wherever the mark stands. -/
theorem not_infix_replaceItems (consumes : Consumes read) (nonempty : mark ≠ [])
    (absent : ∀ a, write a ∉ mark) (taken : ∀ rest, read (mark ++ rest) ≠ none) (text : Text) :
  ¬ mark <:+: replaceItems read write text
  := by
  obtain ⟨m, mark, rfl⟩ := List.exists_cons_of_ne_nil nonempty
  induction text using pieces_induction consumes with
  | nil =>
    intro within
    have := List.infix_nil.mp within
    contradiction
  | skip c text declined ih =>
    rw [replaceItems_of_skip declined, List.infix_cons_iff, not_or]
    refine ⟨?_, ih⟩
    intro start
    rw [← replaceItems_of_skip declined] at start
    obtain ⟨rest, whole⟩ := prefix_of_prefix_replaceItems consumes absent start
    rw [← whole] at declined
    apply taken rest declined
  | item front a rest long found ih =>
    rw [replaceItems_of_read long found, List.infix_cons_iff, not_or]
    refine ⟨?_, ih⟩
    rw [List.cons_prefix_cons]
    rintro ⟨rfl, -⟩
    apply absent a List.mem_cons_self

/-! ### Replacing marks -/

theorem consumes_readMark (nonempty : mark ≠ []) :
  Consumes (readMark mark)
  := by
  intro text a rest found
  obtain ⟨rest', start, same⟩ := Option.map_eq_some_iff.mp found
  obtain ⟨rfl, rfl⟩ := Prod.mk.inj same
  use mark, nonempty, eq_append_of_after? start

theorem readMark_append (mark rest : Text) :
  readMark mark (mark ++ rest) = some ((), rest)
  := by
  rw [readMark, after?_append]
  rfl

theorem readMark_eq_none_iff :
  readMark mark text = none ↔ ¬ mark <+: text
  := by rw [readMark, Option.map_eq_none_iff, after?_eq_none_iff]

/-- A text that a mark does not begin inside of is left as it is. -/
theorem replaceItems_append_of_freeOf {front : Text} (free : FreeOf mark front)
    {write : Unit → Char} (rest : Text) :
  replaceItems (readMark mark) write (front ++ rest)
    = front ++ replaceItems (readMark mark) write rest
  := by
  induction front with
  | nil => rfl
  | cons c front ih =>
    have declined : readMark mark (c :: (front ++ rest)) = none := by
      rw [readMark_eq_none_iff]
      rintro ⟨behind, whole⟩
      have := @free rest [] behind whole.symm
      simp at this
    have later : FreeOf mark front := by
      intro rest before behind whole
      have := @free rest (c :: before) behind (congrArg (c :: ·) whole)
      rw [List.cons_prefix_cons] at this
      apply this.2
    rw [List.cons_append, replaceItems_of_skip declined, ih later]
    rfl

end

end Text

/-! ### References -/

open Text (readMark replaceItems replaceAll)

/-- The brackets that references stand for. -/
inductive Bracket where
  | opening
  | closing

namespace Bracket

def char : Bracket → Char
  | .opening => '['
  | .closing => ']'

def reference : Bracket → Text
  | .opening => openReference
  | .closing => closeReference

/-- Read a reference, as the bracket that it stands for. -/
def read (text : Text) : Option (Bracket × Text) :=
  ((Text.after? openReference text).map (opening, ·)).or
    ((Text.after? closeReference text).map (closing, ·))

theorem char_not_mem_reference (bracket other : Bracket) :
  bracket.char ∉ other.reference
  := by cases bracket <;> cases other <;> decide

theorem reference_ne_nil (bracket : Bracket) :
  bracket.reference ≠ []
  := by cases bracket <;> decide

/-- All references have the same beginning. -/
theorem referenceStart_prefix_reference (bracket : Bracket) :
  referenceStart <+: bracket.reference
  := by cases bracket <;> decide

theorem read_reference_append (bracket : Bracket) (rest : Text) :
  read (bracket.reference ++ rest) = some (bracket, rest)
  := by
  cases bracket with
  | opening =>
    rw [read, reference, Text.after?_append]
    rfl
  | closing => rfl

theorem eq_of_read {bracket : Bracket} {text rest : Text}
    (found : read text = some (bracket, rest)) :
  text = bracket.reference ++ rest
  := by
  rw [read, Option.or_eq_some_iff] at found
  rcases found with found | ⟨-, found⟩
  · obtain ⟨_, start, same⟩ := Option.map_eq_some_iff.mp found
    obtain ⟨rfl, rfl⟩ := Prod.mk.inj same
    apply Text.eq_append_of_after? start
  · obtain ⟨_, start, same⟩ := Option.map_eq_some_iff.mp found
    obtain ⟨rfl, rfl⟩ := Prod.mk.inj same
    apply Text.eq_append_of_after? start

theorem read_eq_none_iff {text : Text} :
  read text = none ↔ ∀ bracket : Bracket, ¬ bracket.reference <+: text
  := by
  constructor
  · rintro declined bracket ⟨rest, rfl⟩
    rw [read_reference_append] at declined
    contradiction
  · intro absent
    rw [Option.eq_none_iff_forall_ne_some]
    rintro ⟨bracket, rest⟩ found
    apply absent bracket
    rw [eq_of_read found]
    apply List.prefix_append

theorem consumes_read :
  Text.Consumes read
  := by
  intro text bracket rest found
  exact ⟨bracket.reference, bracket.reference_ne_nil, eq_of_read found⟩

/-- The reference to an opening bracket does not begin inside the one to a closing bracket. -/
theorem freeOf_openReference_closeReference :
  Text.FreeOf openReference closeReference
  := by
  have opens : openReference = ['&', '#', '9', '1', ';'] := by decide
  have closes : closeReference = ['&', '#', '9', '3', ';'] := by decide
  rw [opens, closes]
  apply Text.freeOf_cons_of_not_mem
  · decide
  · intro rest start
    simp [List.cons_prefix_cons] at start

end Bracket

/-- The text with all references to brackets replaced at once, from left to right. -/
def restoreAtOnce (text : Text) : Text := replaceItems Bracket.read Bracket.char text

/-- No reference to a bracket is left in the text. -/
def Restored (text : Text) : Prop := ∀ bracket : Bracket, ¬ bracket.reference <:+: text

variable {text : Text}

/-- Replacing one kind of reference after the other is replacing both at once. -/
theorem replaceAll_replaceAll (text : Text) :
  replaceAll closeReference [']'] (replaceAll openReference ['['] text) = restoreAtOnce text
  := by
  have consumes := @Text.consumes_readMark openReference (by decide)
  rw [Text.replaceAll_singleton, Text.replaceAll_singleton, restoreAtOnce]
  induction text using Text.pieces_induction Bracket.consumes_read with
  | nil => rfl
  | skip c text declined ih =>
    have absent := Bracket.read_eq_none_iff.mp declined
    have unopened := Text.readMark_eq_none_iff.mpr (absent .opening)
    have opened : replaceItems (readMark openReference) (fun _ => '[') (c :: text)
        = c :: replaceItems (readMark openReference) (fun _ => '[') text :=
      Text.replaceItems_of_skip unopened
    have unclosed : readMark closeReference
        (c :: replaceItems (readMark openReference) (fun _ => '[') text) = none := by
      rw [Text.readMark_eq_none_iff, ← opened]
      intro start
      -- What has been written is no part of a reference.
      apply absent .closing
      apply Text.prefix_of_prefix_replaceItems consumes _ start
      intro _
      apply Bracket.char_not_mem_reference .opening .closing
    rw [opened, Text.replaceItems_of_skip unclosed, Text.replaceItems_of_skip declined, ih]
  | item front bracket rest nonempty found ih =>
    rw [Text.replaceItems_of_read nonempty found, Bracket.eq_of_read found]
    cases bracket with
    | opening =>
      have step : replaceItems (readMark openReference) (fun _ => '[') (openReference ++ rest)
          = '[' :: replaceItems (readMark openReference) (fun _ => '[') rest :=
        Text.replaceItems_of_read (by decide) (Text.readMark_append openReference rest)
      rw [Bracket.reference, step, Text.replaceItems_of_skip rfl, ih]
      rfl
    | closing =>
      rw [Bracket.reference,
        Text.replaceItems_append_of_freeOf Bracket.freeOf_openReference_closeReference,
        Text.replaceItems_of_read (by decide) (Text.readMark_append closeReference _), ih]
      rfl

/-- Nothing is restored in a text without references. -/
theorem restoreAtOnce_of_restored (restored : Restored text) :
  restoreAtOnce text = text
  := by
  apply Text.replaceItems_of_declined
  intro behind part
  rw [Bracket.read_eq_none_iff]
  intro bracket start
  apply restored bracket (start.isInfix.trans part.isInfix)

/-- A text without the beginning that all references share has none of them. -/
theorem restored_of_not_occursIn (absent : Text.occursIn referenceStart text = false) :
  Restored text
  := by
  rw [Text.occursIn, Option.isSome_eq_false_iff, Option.isNone_iff_eq_none,
    Text.splitAtFirst?_eq_none_iff] at absent
  intro bracket within
  apply absent (bracket.referenceStart_prefix_reference.isInfix.trans within)

/-- The brackets are restored at once, and the look at the beginning that all references share
makes no difference. -/
theorem restoreBrackets_eq (text : Text) :
  restoreBrackets text = restoreAtOnce text
  := by
  rw [restoreBrackets, replaceAll_replaceAll]
  split
  · rfl
  · rename_i absent
    symm
    apply restoreAtOnce_of_restored
    apply restored_of_not_occursIn
    rwa [Bool.not_eq_true] at absent

theorem restored_restoreBrackets (text : Text) :
  Restored (restoreBrackets text)
  := by
  intro bracket
  rw [restoreBrackets_eq]
  apply Text.not_infix_replaceItems Bracket.consumes_read bracket.reference_ne_nil
  · intro other
    apply other.char_not_mem_reference
  · intro rest
    rw [bracket.read_reference_append]
    simp

theorem restoreBrackets_idempotent (text : Text) :
  restoreBrackets (restoreBrackets text) = restoreBrackets text
  := by
  rw [restoreBrackets_eq (restoreBrackets text)]
  apply restoreAtOnce_of_restored (restored_restoreBrackets text)

end Shortcode
