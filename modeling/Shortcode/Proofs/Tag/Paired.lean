import Shortcode.Proofs.Tag.Gaps
import Shortcode.Proofs.Tag.Written

/-!
# Brackets in pairs

In a text whose brackets come in pairs, an opening one and the next closing one, whether a tag
is read at a pair depends on what stands within it alone (`read_pair_eq_none_iff`), and a tag
that is read takes up whole pairs (`paired_of_read`).  If the tags of some names are replaced by
texts without brackets, the text that arises is `Cleared`: it names nothing that the first one
did not name, and none of these names has a tag in it (`Cleared.items_eq_nil`).
-/

namespace Shortcode

/-- The character is a square bracket. -/
def isBracket (c : Char) : Bool := c == '[' || c == ']'

/-- From left to right, the brackets of the text are opening and closing ones in turn, the last
one being closing. -/
def Paired (text : Text) : Prop :=
  ∃ n, text.filter isBracket = (List.replicate n ['[', ']']).flatten

/-- The text has no brackets. -/
structure Unbracketed (text : Text) : Prop where
  unopened : '[' ∉ text
  unclosed : ']' ∉ text

theorem unbracketed_iff {text : Text} :
  Unbracketed text ↔ ∀ c ∈ text, ¬ isBracket c
  := by
  constructor
  · rintro ⟨unopened, unclosed⟩ c inside bracket
    rw [isBracket, Bool.or_eq_true, beq_iff_eq, beq_iff_eq] at bracket
    rcases bracket with rfl | rfl
    · contradiction
    · contradiction
  · intro none
    constructor
    · intro inside
      apply none _ inside rfl
    · intro inside
      apply none _ inside rfl

/-! ### Pairs -/

/-- A text whose brackets are paired has none, or a first pair behind which they are paired. -/
theorem Paired.cases {text : Text} (paired : Paired text) :
  Unbracketed text
    ∨ ∃ front inner rest, text = front ++ '[' :: (inner ++ ']' :: rest) ∧ Unbracketed front
      ∧ Unbracketed inner ∧ Paired rest
  := by
  obtain ⟨n, brackets⟩ := paired
  cases n with
  | zero =>
    left
    apply unbracketed_iff.mpr
    apply List.filter_eq_nil_iff.mp brackets
  | succ n =>
    right
    rw [List.replicate_succ, List.flatten_cons] at brackets
    obtain ⟨front, behind, rfl, before, -, brackets⟩ := List.filter_eq_cons_iff.mp brackets
    obtain ⟨inner, rest, rfl, within, -, brackets⟩ := List.filter_eq_cons_iff.mp brackets
    exact ⟨front, inner, rest, rfl, unbracketed_iff.mpr before, unbracketed_iff.mpr within, n,
      brackets⟩

theorem not_paired_of_closing (text : Text) :
  ¬ Paired (']' :: text)
  := by
  rintro ⟨n, brackets⟩
  cases n with
  | zero => contradiction
  | succ n => simp [isBracket, List.replicate_succ] at brackets

theorem not_paired_of_doubled (text : Text) :
  ¬ Paired ('[' :: '[' :: text)
  := by
  rintro ⟨n, brackets⟩
  cases n with
  | zero => contradiction
  | succ n => simp [isBracket, List.replicate_succ] at brackets

theorem exists_of_append_eq {n : Nat} {front rest : Text}
    (whole : front ++ rest = (List.replicate n ['[', ']']).flatten)
    (last : front = [] ∨ front.getLast? = some ']') :
  ∃ m, rest = (List.replicate m ['[', ']']).flatten
  := by
  induction n generalizing front with
  | zero =>
    use 0
    apply (List.append_eq_nil_iff.mp whole).2
  | succ n ih =>
    rcases front with _ | ⟨c, _ | ⟨d, front⟩⟩
    · use n + 1
      apply whole
    · obtain ⟨rfl, -⟩ := List.cons_eq_cons.mp whole
      simp at last
    · obtain ⟨-, whole⟩ := List.cons_eq_cons.mp whole
      obtain ⟨-, whole⟩ := List.cons_eq_cons.mp whole
      apply ih whole
      cases front with
      | nil => exact .inl rfl
      | cons e front =>
        right
        simpa using last

/-- Behind a closing bracket the brackets are paired. -/
theorem Paired.of_append {front rest : Text} (last : front.getLast? = some ']')
    (paired : Paired (front ++ rest)) :
  Paired rest
  := by
  obtain ⟨n, brackets⟩ := paired
  rw [List.filter_append] at brackets
  apply exists_of_append_eq brackets
  right
  obtain ⟨front, rfl⟩ := List.getLast?_eq_some_iff.mp last
  simp [isBracket]

theorem paired_append_iff {front : Text} (before : Unbracketed front) (rest : Text) :
  Paired (front ++ rest) ↔ Paired rest
  := by
  have none : front.filter isBracket = [] := List.filter_eq_nil_iff.mpr (unbracketed_iff.mp before)
  rw [Paired, Paired, List.filter_append, none, List.nil_append]

namespace Tag

/-! ### Reading at a pair -/

/-- Of the names without delimiters, what stands within the pair is read as its own or as one
that hides it. -/
theorem read_pair_eq_none_iff {names : List Text}
    (plain : ∀ name ∈ names, ∀ c ∈ name, isDelimiter c = false) {inner : Text}
    (unopened : '[' ∉ inner) (rest : Text) :
  read names ('[' :: (inner ++ ']' :: rest)) = none
    ↔ ∀ name ∈ names, ¬ (name = inner ∨ Hides name inner)
  := by
  have opens_iff : ∀ name ∈ names,
      (Opens name (inner ++ ']' :: rest) ↔ name = inner ∨ Hides name inner) := by
    intro name inside
    apply opens_append_iff (plain name inside) (delimiting_cons (by decide) _) (by simp)
  rw [read_eq_none_iff]
  constructor
  · intro closed name inside open'
    apply (closed name inside).1
    apply (opens_iff name inside).mpr open'
  · intro closed name inside
    constructor
    · intro opens
      apply closed name inside
      apply (opens_iff name inside).mp opens
    · intro text' doubled
      cases inner with
      | nil => simp at doubled
      | cons c inner =>
        obtain ⟨rfl, -⟩ := List.cons_eq_cons.mp doubled
        simp at unopened

/-- A tag that is written where the brackets are paired takes up whole pairs, and none of its
brackets is doubled. -/
theorem paired_of_render {tag : Tag} {rest : Text} (paired : Paired (tag.render ++ rest)) :
  tag.doubledOpen = false ∧ tag.doubledClose = false ∧ Paired rest
  := by
  have behind : Paired rest := paired.of_append (getLast?_render tag)
  have last : (tag.opener ++ tag.core).getLast? = some ']' := by
    simp [core, List.getLast?_append, List.getLast?_cons, getLast?_body_render]
  have single : tag.doubledClose = false := by
    rw [Bool.eq_false_iff]
    intro doubled
    rw [render, closer, if_pos doubled, List.append_assoc] at paired
    apply not_paired_of_closing rest (paired.of_append last)
  refine ⟨?_, single, behind⟩
  rw [Bool.eq_false_iff]
  intro doubled
  rw [render, opener, if_pos doubled, core] at paired
  apply not_paired_of_doubled _ paired

/-- Induction along the pairs of a text, where pairs at which no tag is read are left and tags
that are read are taken as a whole. -/
@[elab_as_elim]
theorem paired_induction {names : List Text} {motive : (text : Text) → Paired text → Prop}
    (plain : ∀ text paired, Unbracketed text → motive text paired)
    (left : ∀ front inner rest paired behind, Unbracketed front → Unbracketed inner →
      read names ('[' :: (inner ++ ']' :: rest)) = none → motive rest behind →
      motive (front ++ '[' :: (inner ++ ']' :: rest)) paired)
    (taken : ∀ front tag rest paired behind, Unbracketed front →
      read names (tag.render ++ rest) = some (tag, rest) →
      tag.doubledOpen = false → tag.doubledClose = false → motive rest behind →
      motive (front ++ (tag.render ++ rest)) paired)
    {text : Text} (paired : Paired text) :
  motive text paired
  := by
  induction length : text.length using Nat.strongRecOn generalizing text with
  | ind n ih =>
    rcases paired.cases with unbracketed | ⟨front, inner, rest, rfl, before, within, behind⟩
    · apply plain text paired unbracketed
    · cases found : read names ('[' :: (inner ++ ']' :: rest)) with
      | none =>
        apply left front inner rest paired behind before within found
        apply ih rest.length _ behind rfl
        simp [← length]
        omega
      | some result =>
        -- The tag may take up more pairs than this one.
        obtain ⟨tag, rest'⟩ := result
        have written := render_append_of_read found
        clear behind
        revert paired
        rw [written] at found length ⊢
        intro paired
        obtain ⟨singleOpen, singleClose, behind⟩ :=
          paired_of_render ((paired_append_iff before _).mp paired)
        apply taken front tag rest' paired behind before found singleOpen singleClose
        apply ih rest'.length _ behind rfl
        have := List.length_pos_iff.mpr tag.render_ne_nil
        simp [← length]
        omega

variable {names : NameSet}

/-- A pair at which no tag is read is passed over. -/
theorem items_of_left {front inner : Text} (before : Unbracketed front)
    (within : Unbracketed inner) {rest : Text}
    (declined : read names.toList ('[' :: (inner ++ ']' :: rest)) = none) :
  Text.items (read names.toList) (front ++ '[' :: (inner ++ ']' :: rest))
    = Text.items (read names.toList) rest
  := by
  rw [items_append_of_no_bracket before.unopened, Text.items_of_skip declined,
    items_append_of_no_bracket within.unopened,
    Text.items_of_skip (read_eq_none_of_ne (by decide) rest)]

/-- Where the brackets are paired, no tag that is read has a doubled bracket. -/
theorem single_of_mem_items {text : Text} (paired : Paired text) :
  ∀ tag ∈ Text.items (read names.toList) text,
    tag.doubledOpen = false ∧ tag.doubledClose = false
  := by
  induction paired using @paired_induction names.toList with
  | plain text _ unbracketed =>
    intro tag inside
    rw [items_of_no_bracket unbracketed.unopened] at inside
    contradiction
  | left front inner rest _ _ before within declined ih =>
    rw [items_of_left before within declined]
    apply ih
  | taken front tag rest _ _ before found singleOpen singleClose ih =>
    rw [items_written before.unopened found]
    intro other inside
    rcases List.mem_cons.mp inside with rfl | inside
    · exact ⟨singleOpen, singleClose⟩
    · apply ih other inside

/-! ### Filling in what replaces tags -/

theorem fill_locate (start start' : Nat) (pieces : List (Piece Tag)) (texts : List Text) :
  fill (locate start pieces) texts = fill (locate start' pieces) texts
  := by
  induction pieces generalizing start start' texts with
  | nil => rfl
  | cons piece pieces ih =>
    cases piece with
    | char c => apply congrArg (c :: ·) (ih _ _ texts)
    | item tag =>
      cases texts with
      | nil => rfl
      | cons text texts => apply congrArg (text ++ ·) (ih _ _ texts)

/-- A character at which no tag is read is kept. -/
theorem fill_pieces_of_skip {c : Char} {text : Text}
    (declined : read names.toList (c :: text) = none) (texts : List Text) :
  fill (pieces names (c :: text)) texts = c :: fill (pieces names text) texts
  := by
  rw [pieces, Text.pieces_of_skip declined]
  apply congrArg (c :: ·) (fill_locate _ _ _ texts)

/-- Text without opening brackets is kept. -/
theorem fill_pieces_append {front : Text} (without : '[' ∉ front) (rest : Text)
    (texts : List Text) :
  fill (pieces names (front ++ rest)) texts = front ++ fill (pieces names rest) texts
  := by
  induction front with
  | nil => rfl
  | cons c front ih =>
    rw [List.mem_cons, not_or] at without
    rw [List.cons_append, fill_pieces_of_skip (read_eq_none_of_ne (Ne.symm without.1) _),
      ih without.2, List.cons_append]

/-- A pair at which no tag is read is kept. -/
theorem fill_pieces_of_left {front inner : Text} (before : Unbracketed front)
    (within : Unbracketed inner) {rest : Text}
    (declined : read names.toList ('[' :: (inner ++ ']' :: rest)) = none) (texts : List Text) :
  fill (pieces names (front ++ '[' :: (inner ++ ']' :: rest))) texts
    = front ++ '[' :: (inner ++ ']' :: fill (pieces names rest) texts)
  := by
  rw [fill_pieces_append before.unopened, fill_pieces_of_skip declined,
    fill_pieces_append within.unopened, fill_pieces_of_skip (read_eq_none_of_ne (by decide) rest)]

/-- A tag that is read is replaced. -/
theorem fill_pieces_of_read {tag : Tag} {rest : Text}
    (found : read names.toList (tag.render ++ rest) = some (tag, rest)) (text : Text)
    (texts : List Text) :
  fill (pieces names (tag.render ++ rest)) (text :: texts)
    = text ++ fill (pieces names rest) texts
  := by
  rw [pieces, Text.pieces_of_read tag.render_ne_nil found]
  apply congrArg (text ++ ·) (fill_locate _ _ _ texts)

end Tag

/-- A name that is delimited behind a text is delimited within it, if a delimiter follows. -/
theorem delimited_append_cons_iff {name inner rest : Text} {d : Char} (delimiter : isDelimiter d)
    (plain : ∀ c ∈ name, isDelimiter c = false) :
  Delimited name (inner ++ d :: rest) ↔ Delimited name inner
  := by
  have longest : (inner ++ d :: rest).takeWhile (!isDelimiter ·)
      = inner.takeWhile (!isDelimiter ·) := by
    induction inner with
    | nil => simp [delimiter]
    | cons c inner ih => simp [List.takeWhile_cons, ih]
  rw [delimited_iff_takeWhile plain, delimited_iff_takeWhile plain, longest]

/-- What is named at a pair is named by what stands within it. -/
theorem namedIn_pair_iff {name inner rest : Text} (within : '[' ∉ inner)
    (plain : ∀ c ∈ name, isDelimiter c = false) :
  NamedIn name ('[' :: (inner ++ ']' :: rest)) ↔ Delimited name inner ∨ NamedIn name rest
  := by
  rw [namedIn_cons_iff, namedIn_append_iff within, namedIn_cons_iff,
    delimited_append_cons_iff (by decide) plain]
  simp

/-! ### Cleared texts -/

/-- The text has neither brackets nor references to brackets. -/
structure Clean (text : Text) : Prop extends Unbracketed text where
  unreferenced : '&' ∉ text

theorem clean_nil :
  Clean []
  := ⟨⟨List.not_mem_nil, List.not_mem_nil⟩, List.not_mem_nil⟩

/-- The second text arises from the first one by putting clean texts in place of the tags of the
names. -/
inductive Cleared (names : NameSet) : Text → Text → Prop where
  | plain {text : Text} (unbracketed : Unbracketed text) : Cleared names text text
  | left {front inner rest cleared : Text} (before : Unbracketed front)
    (within : Unbracketed inner)
    (declined : Tag.read names.toList ('[' :: (inner ++ ']' :: rest)) = none)
    (others : Cleared names rest cleared) :
    Cleared names (front ++ '[' :: (inner ++ ']' :: rest))
      (front ++ '[' :: (inner ++ ']' :: cleared))
  | taken {front rest replacement cleared : Text} {tag : Tag} (before : Unbracketed front)
    (found : Tag.read names.toList (tag.render ++ rest) = some (tag, rest))
    (clean : Clean replacement) (others : Cleared names rest cleared) :
    Cleared names (front ++ (tag.render ++ rest)) (front ++ (replacement ++ cleared))

/-- Filling clean texts in clears a text. -/
theorem cleared_fill {names : NameSet} {text : Text} (paired : Paired text) {texts : List Text}
    (enough : texts.length = (Text.items (Tag.read names.toList) text).length)
    (clean : ∀ text ∈ texts, Clean text) :
  Cleared names text (fill (Tag.pieces names text) texts)
  := by
  induction paired using @Tag.paired_induction names.toList generalizing texts with
  | plain text _ unbracketed =>
    rw [Tag.items_of_no_bracket unbracketed.unopened] at enough
    obtain rfl := List.eq_nil_of_length_eq_zero enough
    have kept := @Tag.fill_pieces_append names text unbracketed.unopened [] []
    rw [List.append_nil] at kept
    rw [kept]
    change Cleared names text (text ++ [])
    rw [List.append_nil]
    exact .plain unbracketed
  | left front inner rest _ _ before within declined ih =>
    rw [Tag.items_of_left before within declined] at enough
    rw [Tag.fill_pieces_of_left before within declined]
    exact .left before within declined (ih enough clean)
  | taken front tag rest _ _ before found _ _ ih =>
    rw [Tag.items_written before.unopened found] at enough
    obtain ⟨text, texts, rfl⟩ := List.exists_cons_of_length_eq_add_one enough
    obtain ⟨first, others⟩ := List.forall_mem_cons.mp clean
    rw [Tag.fill_pieces_append before.unopened, Tag.fill_pieces_of_read found]
    exact .taken before found first (ih (Nat.succ.inj enough) others)

namespace Cleared

variable {names : NameSet} {text cleared : Text}

theorem unreferenced (clears : Cleared names text cleared) (without : '&' ∉ text) :
  '&' ∉ cleared
  := by
  induction clears with
  | plain => apply without
  | left _ _ _ _ ih => simp_all
  | taken _ _ clean _ ih =>
    have := clean.unreferenced
    simp_all

/-- What is named in the cleared text was named before. -/
theorem namedIn (clears : Cleared names text cleared) {name : Text}
    (plain : ∀ c ∈ name, isDelimiter c = false) (named : NamedIn name cleared) :
  NamedIn name text
  := by
  induction clears with
  | plain => apply named
  | @left front inner rest cleared before within _ _ ih =>
    rw [namedIn_append_iff before.unopened, namedIn_pair_iff within.unopened plain] at named ⊢
    apply named.imp_right ih
  | @taken front rest replacement cleared tag before _ clean _ ih =>
    rw [namedIn_append_iff before.unopened, namedIn_append_iff clean.unopened] at named
    apply NamedIn.append_left
    apply NamedIn.append_left
    apply ih named

/-- In the cleared text no tag of the names is read, nor is one of fewer names. -/
theorem items_eq_nil (clears : Cleared names text cleared) {others : NameSet}
    (plain : ∀ name ∈ names, ∀ c ∈ name, isDelimiter c = false)
    (fewer : ∀ name ∈ others, name ∈ names) :
  Text.items (Tag.read others.toList) cleared = []
  := by
  induction clears with
  | plain unbracketed => apply Tag.items_of_no_bracket unbracketed.unopened
  | @left front inner rest cleared before within declined _ ih =>
    rw [Tag.items_of_left before within, ih]
    -- What follows the pair has changed, but reading at the pair does not depend on it.
    rw [Tag.read_pair_eq_none_iff plain within.unopened] at declined
    rw [Tag.read_pair_eq_none_iff (fun name inside => plain name (fewer name inside))
      within.unopened]
    intro name inside
    apply declined name (fewer name inside)
  | taken before _ clean _ ih =>
    rw [Tag.items_append_of_no_bracket before.unopened,
      Tag.items_append_of_no_bracket clean.unopened, ih]

end Cleared

end Shortcode
