import Mathlib.Tactic.Common
import Shortcode.Proofs.Text.Marks
import Shortcode.Tag

/-!
# Legible tags

Which texts are read as a tag?  `Tag.Legible rest tag` lists what must hold of a tag, and of
the text `rest` behind it, for the written form of the tag to be read as that tag.
`readNamed_eq_some_iff` says that nothing else is needed, and `readNamed_eq_none_iff` that no
tag of a name is read exactly where no opening mark of that name stands.  `read_eq_none_iff`
and `legible_of_read` say the same of a set of names.
-/

namespace Shortcode

namespace Tag

/-! ### Opening marks -/

theorem endsName_append_cons {text rest : Text} {c : Char} (plain : isNameChar c = false) :
  endsName (text ++ c :: rest) = endsName text
  := by
  cases text with
  | nil => simp [endsName, plain]
  | cons d text => rfl

/-- A character goes to the attributes if it does not end the opening mark. -/
theorem readOpening_cons {c : Char} {text : Text} (inside : c ≠ ']')
    (slash : c = '/' → text.head? ≠ some ']') :
  readOpening (c :: text)
    = (readOpening text).map fun (attributes, closes, rest) => (c :: attributes, closes, rest)
  := by
  conv => lhs; unfold readOpening
  rw [if_neg inside]
  split
  · simp at slash
  · rfl

/-- An opening mark is left unread exactly if no bracket closes it. -/
theorem readOpening_eq_none_iff {text : Text} :
  readOpening text = none ↔ ']' ∉ text
  := by
  induction text with
  | nil => simp [readOpening]
  | cons c text ih =>
    unfold readOpening
    split
    · rename_i close
      simp [close]
    · rename_i inside
      split
      · simp
      · rw [Option.map_eq_none_iff, ih]
        simp [Ne.symm inside]

theorem attributes_of_readOpening {text attributes rest : Text} {closes : Bool}
    (h : readOpening text = some (attributes, closes, rest)) :
  ']' ∉ attributes ∧ (closes = false → attributes.getLast? ≠ some '/')
  := by
  induction text generalizing attributes with
  | nil => simp [readOpening] at h
  | cons c text ih =>
    unfold readOpening at h
    split at h
    · obtain ⟨rfl, rfl, rfl⟩ := by simpa using h
      simp
    · rename_i inside
      split at h
      · obtain ⟨rfl, rfl, rfl⟩ := by simpa using h
        simp
      · rename_i unclosed
        simp only [Option.map_eq_some_iff, Prod.exists, Prod.mk.injEq] at h
        obtain ⟨attributes', closes', rest', found, rfl, rfl, rfl⟩ := h
        obtain ⟨clean, last⟩ := ih found
        constructor
        · simp [Ne.symm inside, clean]
        · intro open'
          cases attributes' with
          | nil =>
            have := eq_of_readOpening found
            simp only [open', List.nil_append] at this
            intro slash
            obtain rfl : c = '/' := by simpa using slash
            apply unclosed rest' rfl
            simpa using this
          | cons d attributes' =>
            rw [List.getLast?_cons_cons]
            apply last open'

theorem readOpening_append {attributes : Text} {closes : Bool} (clean : ']' ∉ attributes)
    (last : closes = false → attributes.getLast? ≠ some '/') (rest : Text) :
  readOpening (attributes ++ (if closes then ['/', ']'] else [']']) ++ rest)
    = some (attributes, closes, rest)
  := by
  induction attributes with
  | nil => cases closes <;> simp [readOpening]
  | cons c attributes ih =>
    have inside : c ≠ ']' := by
      rintro rfl
      simp at clean
    simp only [List.cons_append]
    rw [readOpening_cons inside, ih]
    · rfl
    · simp_all
    · intro open'
      have := last open'
      cases attributes with
      | nil => simp
      | cons d attributes => rwa [List.getLast?_cons_cons] at this
    · rintro rfl
      cases attributes with
      | nil => cases closes <;> simp_all
      | cons d attributes =>
        simp only [List.mem_cons, not_or] at clean
        simp [Ne.symm clean.2.1]

/-- The attributes reach to the first closing bracket, less the slash before it if there is
one. -/
theorem readOpening_eq_some_iff {text attributes rest : Text} {closes : Bool} :
  readOpening text = some (attributes, closes, rest)
    ↔ text = attributes ++ (if closes then ['/', ']'] else [']']) ++ rest
      ∧ ']' ∉ attributes ∧ (closes = false → attributes.getLast? ≠ some '/')
  := by
  constructor
  · intro h
    exact ⟨eq_of_readOpening h, attributes_of_readOpening h⟩
  · rintro ⟨rfl, clean, last⟩
    apply readOpening_append clean last

/-! ### What follows an opening mark -/

/-- A content reaches to the first closing mark, and there is none only where no closing mark
follows. -/
theorem readBody_eq_iff {name text rest : Text} {closes : Bool} {body : Body} :
  readBody name closes text = (body, rest)
    ↔ (closes = true ∧ body = .selfClosing ∧ text = rest)
      ∨ (closes = false ∧ body = .bare ∧ text = rest ∧ ¬ closingMark name <:+: rest)
      ∨ (closes = false ∧ ∃ content, body = .enclosing content
        ∧ text = content ++ closingMark name ++ rest
        ∧ Text.OnlyAtEnd (closingMark name) content)
  := by
  cases closes with
  | true => simp [readBody, eq_comm]
  | false =>
    cases cut : Text.splitAtFirst? (closingMark name) text with
    | none =>
      have absent := Text.splitAtFirst?_eq_none_iff.mp cut
      simp only [readBody, cut, Bool.false_eq_true, if_false, Prod.mk.injEq, true_and, false_and,
        false_or]
      constructor
      · rintro ⟨rfl, rfl⟩
        exact .inl ⟨rfl, rfl, absent⟩
      · rintro (⟨rfl, rfl, -⟩ | ⟨content, rfl, rfl, -⟩)
        · exact ⟨rfl, rfl⟩
        · apply absurd ⟨content, rest, rfl⟩ absent
    | some parts =>
      obtain ⟨content, behind⟩ := parts
      have present := (Text.splitAtFirst?_eq_some_iff.mp cut).1
      simp only [readBody, cut, Bool.false_eq_true, if_false, Prod.mk.injEq, true_and, false_and,
        false_or]
      constructor
      · rintro ⟨rfl, rfl⟩
        exact .inr ⟨content, rfl, Text.splitAtFirst?_eq_some_iff.mp cut⟩
      · rintro (⟨rfl, rfl, absent⟩ | ⟨content', rfl, split⟩)
        · apply absurd ⟨content, behind, present.symm⟩ absent
        · have again := Text.splitAtFirst?_eq_some_iff.mpr split
          rw [cut] at again
          obtain ⟨rfl, rfl⟩ := by simpa using again
          exact ⟨rfl, rfl⟩

/-- An additional closing bracket is taken exactly if there is one. -/
theorem readDoubledClose_eq_iff {text rest : Text} {doubled : Bool} :
  readDoubledClose text = (doubled, rest)
    ↔ text = (if doubled then [']'] else []) ++ rest
      ∧ (doubled = false → rest.head? ≠ some ']')
  := by
  unfold readDoubledClose
  split
  · cases doubled <;> simp_all [eq_comm]
  · rename_i single
    cases doubled with
    | false =>
      simp only [Prod.mk.injEq, true_and, Bool.false_eq_true, if_false, List.nil_append]
      constructor
      · rintro rfl
        refine ⟨rfl, fun _ first => ?_⟩
        cases text with
        | nil => simp at first
        | cons c text => simp_all
      · rintro ⟨rfl, -⟩
        rfl
    | true => simp_all

/-! ### Tags of one name -/

/-- The tag is read as it is written in front of the given text. -/
structure Legible (rest : Text) (tag : Tag) : Prop where
  /-- The attributes do not continue the name. -/
  boundary : endsName tag.attributes
  /-- The attributes do not close the opening mark. -/
  clean : ']' ∉ tag.attributes
  /-- The attributes do not make the tag close itself. -/
  unslashed : tag.body ≠ .selfClosing → tag.attributes.getLast? ≠ some '/'
  /-- The closing mark of the tag is the first one. -/
  first : ∀ content, tag.body = .enclosing content →
    Text.OnlyAtEnd (closingMark tag.name) content
  /-- A tag with no content has no closing mark. -/
  unclosed : tag.body = .bare → ¬ closingMark tag.name <:+: tag.closer ++ rest
  /-- No closing bracket is left behind the tag. -/
  single : tag.doubledClose = false → rest.head? ≠ some ']'

/-- An opening mark of the name stands at the start of the text, less its opening bracket. -/
def Opens (name text : Text) : Prop :=
  ∃ behind, text = name ++ behind ∧ endsName behind ∧ ']' ∈ behind

/-- An opening mark is one whatever follows. -/
theorem Opens.append {name text : Text} (opens : Opens name text) (rest : Text) :
  Opens name (text ++ rest)
  := by
  obtain ⟨behind, rfl, ends, closed⟩ := opens
  obtain ⟨c, behind, rfl⟩ := List.exists_cons_of_ne_nil (List.ne_nil_of_mem closed)
  use c :: behind ++ rest, List.append_assoc name (c :: behind) rest, ends
  apply List.mem_append_left rest closed

/-- The body of a legible tag is what follows some opening mark with its attributes. -/
theorem Legible.exists_readBody {rest : Text} {tag : Tag} (legible : tag.Legible rest) :
  ∃ closes opened, readBody tag.name closes opened = (tag.body, tag.closer ++ rest)
    ∧ (closes = false → tag.attributes.getLast? ≠ some '/')
  := by
  cases body : tag.body with
  | selfClosing =>
    use true, tag.closer ++ rest, readBody_eq_iff.mpr (.inl ⟨rfl, rfl, rfl⟩)
    simp
  | bare =>
    have absent := legible.unclosed body
    use false, tag.closer ++ rest, readBody_eq_iff.mpr (.inr (.inl ⟨rfl, rfl, rfl, absent⟩))
    intro _
    apply legible.unslashed
    simp [body]
  | enclosing content =>
    have first := legible.first content body
    use false, content ++ closingMark tag.name ++ (tag.closer ++ rest),
      readBody_eq_iff.mpr (.inr (.inr ⟨rfl, content, rfl, rfl, first⟩))
    intro _
    apply legible.unslashed
    simp [body]

theorem endsName_render (tag : Tag) (rest : Text) :
  endsName (tag.attributes ++ tag.body.render tag.name ++ rest) = endsName tag.attributes
  := by
  cases body : tag.body with
  | selfClosing =>
    simp only [Body.render, List.append_assoc, List.cons_append]
    apply endsName_append_cons
    decide
  | bare =>
    simp only [Body.render, List.append_assoc, List.cons_append]
    apply endsName_append_cons
    decide
  | enclosing content =>
    simp only [Body.render, List.append_assoc, List.cons_append]
    apply endsName_append_cons
    decide

/-- The steps of reading a tag of a name. -/
theorem readNamed_eq_some_iff_steps {doubledOpen : Bool} {name text rest : Text} {tag : Tag} :
  readNamed doubledOpen text name = some (tag, rest)
    ↔ ∃ behind closes opened closed,
      Text.after? name text = some behind
        ∧ endsName behind
        ∧ readOpening behind = some (tag.attributes, closes, opened)
        ∧ readBody name closes opened = (tag.body, closed)
        ∧ readDoubledClose closed = (tag.doubledClose, rest)
        ∧ tag.doubledOpen = doubledOpen
        ∧ tag.name = name
  := by
  obtain ⟨doubledOpen', name', attributes', body', doubledClose'⟩ := tag
  constructor
  · intro found
    obtain ⟨behind, start, found⟩ := Option.bind_eq_some_iff.mp found
    obtain ⟨_, ends, found⟩ := Option.bind_eq_some_iff.mp found
    obtain ⟨⟨attributes, closes, opened⟩, opening, found⟩ := Option.bind_eq_some_iff.mp found
    simp only [Option.pure_def, Option.some.injEq, Prod.mk.injEq, mk.injEq] at found
    obtain ⟨⟨rfl, rfl, rfl, rfl, rfl⟩, rfl⟩ := found
    use behind, closes, opened, (readBody name closes opened).2
    refine ⟨start, ?_, opening, rfl, rfl, rfl, rfl⟩
    by_contra continued
    have declined : (guard (endsName behind) : Option Unit) = none := if_neg continued
    rw [declined] at ends
    contradiction
  · rintro ⟨behind, closes, opened, closed, start, ends, opening, body, close, rfl, rfl⟩
    apply Option.bind_eq_some_iff.mpr
    use behind, start
    apply Option.bind_eq_some_iff.mpr
    use (), if_pos ends
    apply Option.bind_eq_some_iff.mpr
    use (attributes', closes, opened), opening
    simp [body, close]

/-- The tags of a name that are read are the legible ones. -/
theorem readNamed_eq_some_iff {doubledOpen : Bool} {name text rest : Text} {tag : Tag} :
  readNamed doubledOpen text name = some (tag, rest)
    ↔ tag.doubledOpen = doubledOpen ∧ tag.name = name
      ∧ text = name ++ tag.attributes ++ tag.body.render name ++ tag.closer ++ rest
      ∧ tag.Legible rest
  := by
  rw [readNamed_eq_some_iff_steps]
  constructor
  · rintro ⟨behind, closes, opened, closed, start, ends, opening, body, close, rfl, rfl⟩
    obtain ⟨rfl, clean, unslashed⟩ := readOpening_eq_some_iff.mp opening
    obtain ⟨rfl, single⟩ := readDoubledClose_eq_iff.mp close
    have written := eq_of_readBody body
    have whole :
      tag.attributes ++ (if closes then ['/', ']'] else [']']) ++ opened
        = tag.attributes ++ tag.body.render tag.name ++ (tag.closer ++ rest)
      := by
      rw [List.append_assoc, written, closer, ← List.append_assoc]
    rw [whole] at start ends
    refine ⟨rfl, rfl, ?_, ?_⟩
    · rw [Text.eq_append_of_after? start]
      simp only [List.append_assoc]
    · rw [endsName_render] at ends
      rcases readBody_eq_iff.mp body with
        ⟨-, closing, -⟩ | ⟨open', bare, -, absent⟩ | ⟨open', content, enclosed, -, first⟩
      · exact ⟨ends, clean, absurd closing, by simp [closing], by simp [closing], single⟩
      · exact ⟨ends, clean, fun _ => unslashed open', by simp [bare], fun _ => absent, single⟩
      · refine ⟨ends, clean, fun _ => unslashed open', ?_, by simp [enclosed], single⟩
        intro content' enclosed'
        rw [enclosed] at enclosed'
        obtain rfl := by simpa using enclosed'
        apply first
  · rintro ⟨rfl, rfl, rfl, legible⟩
    obtain ⟨closes, opened, body, unslashed⟩ := legible.exists_readBody
    use tag.attributes ++ tag.body.render tag.name ++ (tag.closer ++ rest), closes, opened,
      tag.closer ++ rest
    refine ⟨?_, ?_, ?_, body, ?_, rfl, rfl⟩
    · simp only [List.append_assoc]
      apply Text.after?_append
    · rw [endsName_render]
      apply legible.boundary
    · rw [List.append_assoc, ← eq_of_readBody body, ← List.append_assoc]
      apply readOpening_append legible.clean unslashed
    · apply readDoubledClose_eq_iff.mpr
      exact ⟨rfl, legible.single⟩

/-- A tag of a name is read exactly where an opening mark of the name stands. -/
theorem exists_readNamed_iff {doubledOpen : Bool} {name text : Text} :
  (∃ found, readNamed doubledOpen text name = some found) ↔ Opens name text
  := by
  constructor
  · rintro ⟨⟨tag, rest⟩, found⟩
    obtain ⟨behind, closes, opened, -, start, ends, opening, -⟩ :=
      readNamed_eq_some_iff_steps.mp found
    refine ⟨behind, Text.eq_append_of_after? start, ends, ?_⟩
    by_contra unclosed
    rw [readOpening_eq_none_iff.mpr unclosed] at opening
    contradiction
  · rintro ⟨behind, rfl, ends, closed⟩
    cases opening : readOpening behind with
    | none =>
      have unclosed := readOpening_eq_none_iff.mp opening
      contradiction
    | some parts =>
      obtain ⟨attributes, closes, opened⟩ := parts
      let body := readBody name closes opened
      let close := readDoubledClose body.2
      use (⟨doubledOpen, name, attributes, body.1, close.1⟩, close.2)
      apply readNamed_eq_some_iff_steps.mpr
      use behind, closes, opened, body.2
      exact ⟨Text.after?_append name behind, ends, opening, rfl, rfl, rfl, rfl⟩

theorem readNamed_eq_none_iff {doubledOpen : Bool} {name text : Text} :
  readNamed doubledOpen text name = none ↔ ¬ Opens name text
  := by
  rw [← @exists_readNamed_iff doubledOpen, ← Option.isSome_iff_exists,
    Option.not_isSome_iff_eq_none]

/-! ### Tags of several names -/

/-- No tag is read exactly where neither a single nor a doubled opening mark of any of the
names stands. -/
theorem read_eq_none_iff {names : List Text} {text : Text} :
  read names ('[' :: text) = none
    ↔ ∀ name ∈ names, ¬ Opens name text ∧ ∀ text', text = '[' :: text' → ¬ Opens name text'
  := by
  simp only [read, readBehind, Option.or_eq_none_iff, List.findSome?_eq_none_iff]
  split
  · rename_i text'
    simp only [List.findSome?_eq_none_iff, readNamed_eq_none_iff]
    constructor
    · rintro ⟨doubled, single⟩ name inside
      refine ⟨single name inside, ?_⟩
      rintro text' ⟨⟩
      apply doubled name inside
    · intro closed
      constructor
      · intro name inside
        apply (closed name inside).2 text' rfl
      · intro name inside
        apply (closed name inside).1
  · rename_i single
    simp only [readNamed_eq_none_iff, true_and]
    constructor
    · intro closed name inside
      refine ⟨closed name inside, ?_⟩
      rintro text' rfl
      apply absurd rfl (single text')
    · intro closed name inside
      apply (closed name inside).1

/-- A tag that is read is read behind one or two opening brackets, by one of the names. -/
theorem exists_readNamed_of_read {names : List Text} {text : Text} {found : Tag × Text}
    (h : read names text = some found) :
  ∃ name ∈ names, ∃ doubledOpen text', readNamed doubledOpen text' name = some found
  := by
  unfold read at h
  split at h
  · simp only [readBehind, Option.or_eq_some_iff] at h
    rcases h with h | ⟨-, h⟩
    · split at h
      · obtain ⟨name, inside, found⟩ := List.exists_of_findSome?_eq_some h
        exact ⟨name, inside, true, _, found⟩
      · contradiction
    · obtain ⟨name, inside, found⟩ := List.exists_of_findSome?_eq_some h
      exact ⟨name, inside, false, _, found⟩
  · contradiction

/-- A tag that is read has one of the names. -/
theorem name_mem_of_read {names : List Text} {text rest : Text} {tag : Tag}
    (h : read names text = some (tag, rest)) :
  tag.name ∈ names
  := by
  obtain ⟨name, inside, _, _, found⟩ := exists_readNamed_of_read h
  obtain ⟨-, rfl, -⟩ := readNamed_eq_some_iff.mp found
  apply inside

/-- A tag that is read is legible in front of the text that is left. -/
theorem legible_of_read {names : List Text} {text rest : Text} {tag : Tag}
    (h : read names text = some (tag, rest)) :
  tag.Legible rest
  := by
  obtain ⟨_, _, _, _, found⟩ := exists_readNamed_of_read h
  exact (readNamed_eq_some_iff.mp found).2.2.2

end Tag

end Shortcode
