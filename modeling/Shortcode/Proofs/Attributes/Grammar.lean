import Mathlib.Data.List.Basic
import Mathlib.Data.List.Induction
import Mathlib.Data.List.TakeWhile
import Mathlib.Data.Option.Basic
import Mathlib.Tactic.Common
import Shortcode.Proofs.Attributes.Values
import Shortcode.Proofs.Text.Readers

/-!
# The grammar of attributes

The text of attributes lists tokens with gaps between them (`Token.Layout`).  A token is a key with
a value or a value alone, and the value is written between quotes of either kind or bare
(`Token.Written`).  Gaps consist of blanks and fillers; fillers are normalized to blanks first,
which changes the gaps alone (`layout_normalizeSpaces`), and then the tokens are read one by one as
they are written (`tokens_of_layout`).  So what a text of this grammar is parsed to is what its
tokens stand for (`Attributes.parse_of_layout`).
-/

namespace Shortcode

/-! ### Beginnings -/

/-- A beginning of characters that pass a test, in front of one that does not, is the longest
one. -/
theorem span_append {p : Char → Bool} {front rest : Text} (all : ∀ c ∈ front, p c)
    (stops : ∀ c ∈ rest.head?, p c = false) :
  (front ++ rest).takeWhile p = front ∧ (front ++ rest).dropWhile p = rest
  := by
  rw [List.takeWhile_append_of_pos all, List.dropWhile_append_of_pos all]
  cases rest with
  | nil => simp
  | cons c rest =>
    have stop : p c = false := stops c rfl
    simp [stop]

/-- No blank continues a name. -/
theorem isNameChar_of_isBlank {c : Char} (blank : isBlank c) :
  isNameChar c = false
  := by
  have apart : ∀ block ∈ blankBlocks.toList, ∀ k < block.2 + 1 - block.1,
      wordBlocks.contains (block.1 + k) = false := by decide +kernel
  obtain ⟨block, inside, low, high⟩ := (blankBlocks.contains_iff _).mp blank
  have other := apart block inside (c.toNat - block.1) (by omega)
  rw [Nat.add_sub_cancel' low] at other
  rw [isNameChar, Bool.or_eq_false_iff, beq_eq_false_iff_ne]
  constructor
  · rintro rfl
    exact absurd blank (by decide +kernel)
  · exact other

/-! ### Written tokens -/

namespace Attributes

/-- The key can be written: it has characters, and all of them continue names. -/
structure IsKey (key : Text) : Prop where
  nonempty : key ≠ []
  continues : ∀ c ∈ key, isNameChar c

instance (key : Text) : Decidable (IsKey key) :=
  decidable_of_iff (key ≠ [] ∧ key.all isNameChar)
    ⟨fun h => ⟨h.1, List.all_eq_true.mp h.2⟩, fun h => ⟨h.1, List.all_eq_true.mpr h.2⟩⟩

end Attributes

namespace Token

/-- How a value is quoted. -/
inductive Quotes where
  | double
  | single
  | none
  deriving DecidableEq, Repr

namespace Quotes

/-- The value as it is written. -/
def enclose : Quotes → Text → Text
  | .double, value => '"' :: (value ++ ['"'])
  | .single, value => '\'' :: (value ++ ['\''])
  | .none, value => value

/-- The value can be written so: between quotes without the quote, and bare if it has characters
and none of them is a quote or a blank. -/
def Admits : Quotes → Text → Prop
  | .double, value => '"' ∉ value
  | .single, value => '\'' ∉ value
  | .none, value => value ≠ [] ∧ '"' ∉ value ∧ '\'' ∉ value ∧ ∀ c ∈ value, isBlank c = false

instance (quotes : Quotes) (value : Text) : Decidable (quotes.Admits value) :=
  match quotes with
  | .double => inferInstanceAs (Decidable ('"' ∉ value))
  | .single => inferInstanceAs (Decidable ('\'' ∉ value))
  | .none =>
    decidable_of_iff (value ≠ [] ∧ '"' ∉ value ∧ '\'' ∉ value ∧ value.all (!isBlank ·))
      (by simp [Admits])

end Quotes

/-- A token as it is written: a value under a key, with blanks before and after the equals sign, or
a value alone. -/
inductive Written where
  | named (key before after : Text) (quotes : Quotes) (value : Text)
  | positional (quotes : Quotes) (value : Text)
  deriving DecidableEq, Repr

namespace Written

/-- The text of a token. -/
def text : Written → Text
  | .named key before after quotes value => key ++ (before ++ '=' :: (after ++ quotes.enclose value))
  | .positional quotes value => quotes.enclose value

/-- The token that is written. -/
def token : Written → Token
  | .named key _ _ _ value => .named key value
  | .positional _ value => .positional value

/-- The parts fit together: keys consist of characters of names, and a bare value that stands
alone has no equals sign. -/
def Fits : Written → Prop
  | .named key before after quotes value =>
    Attributes.IsKey key ∧ (∀ c ∈ before, isBlank c) ∧ (∀ c ∈ after, isBlank c)
      ∧ quotes.Admits value
  | .positional quotes value => quotes.Admits value ∧ (quotes = .none → '=' ∉ value)

instance (word : Written) : Decidable word.Fits :=
  match word with
  | .named key before after quotes value =>
    decidable_of_iff
      (Attributes.IsKey key ∧ before.all isBlank ∧ after.all isBlank ∧ quotes.Admits value)
      (by simp [Fits])
  | .positional quotes value =>
    inferInstanceAs (Decidable (quotes.Admits value ∧ (quotes = .none → '=' ∉ value)))

/-- The token is written in keeping with the grammar, and without fillers. -/
structure WellFormed (word : Written) : Prop where
  fits : word.Fits
  plain : ∀ c ∈ word.text, isFiller c = false

instance (word : Written) : Decidable word.WellFormed :=
  decidable_of_iff (word.Fits ∧ word.text.all (!isFiller ·))
    ⟨fun h => ⟨h.1, by simpa using h.2⟩, fun h => ⟨h.fits, by simpa using h.plain⟩⟩

end Written

/-- The text lists the written tokens: behind each of them there is a gap, which is not empty if
another token follows. -/
inductive Layout (space : Char → Bool) : List Written → Text → Prop where
  | nil : Layout space [] []
  | cons {word : Written} {words : List Written} {gap rest : Text} (wellFormed : word.WellFormed)
    (spaces : ∀ c ∈ gap, space c) (apart : words ≠ [] → gap ≠ [])
    (others : Layout space words rest) :
    Layout space (word :: words) (word.text ++ (gap ++ rest))

/-- The character stands between tokens. -/
def isSpace (c : Char) : Bool := isBlank c || isFiller c

/-! ### Reading a written token -/

theorem eq_of_readEnd {rest behind : Text} (ends : readEnd rest = some behind) :
  behind = rest.drop 1 ∧ ∀ c ∈ rest.head?, isBlank c
  := by
  cases rest with
  | nil =>
    obtain rfl := Option.some.inj ends
    simp
  | cons c rest =>
    rw [readEnd] at ends
    split at ends
    · rename_i blank
      obtain rfl := Option.some.inj ends
      simpa using blank
    · contradiction

variable {quotes : Quotes} {value rest behind : Text}

/-- The first character of a bare value. -/
theorem exists_cons_of_admits (admits : Quotes.none.Admits value) :
  ∃ c text, value = c :: text ∧ c ≠ '"' ∧ c ≠ '\'' ∧ isBlank c = false
  := by
  obtain ⟨nonempty, double, single, unblank⟩ := admits
  obtain ⟨c, text, rfl⟩ := List.exists_cons_of_ne_nil nonempty
  rw [List.mem_cons, not_or] at double single
  exact ⟨c, text, rfl, Ne.symm double.1, Ne.symm single.1, unblank c List.mem_cons_self⟩

/-- A bare value is not read as a quoted one. -/
theorem readQuotedValue_of_bare (admits : Quotes.none.Admits value) (rest : Text) :
  readQuotedValue (value ++ rest) = none
  := by
  obtain ⟨c, text, rfl, double, single, -⟩ := exists_cons_of_admits admits
  unfold readQuotedValue
  split <;> simp_all

/-- What stands between two quotes is read whole. -/
theorem readQuoted_append {quote : Char} {value : Text} (without : quote ∉ value) (rest : Text) :
  readQuoted quote (value ++ quote :: rest) = some (value, rest)
  := by
  induction value with
  | nil => simp [readQuoted]
  | cons c value ih =>
    rw [List.mem_cons, not_or] at without
    simp [readQuoted, Ne.symm without.1, ih without.2]

/-- A value between quotes is read whole. -/
theorem readQuotedValue_enclose (quoted : quotes ≠ .none) (admits : quotes.Admits value)
    (ends : readEnd rest = some behind) :
  readQuotedValue (quotes.enclose value ++ rest) = some (value, behind)
  := by
  cases quotes with
  | double =>
    have read := readQuoted_append admits rest
    simp [Quotes.enclose, readQuotedValue, ending, read, ends]
  | single =>
    have read := readQuoted_append admits rest
    simp [Quotes.enclose, readQuotedValue, ending, read, ends]
  | none => contradiction

/-- A value behind an equals sign is read whole. -/
theorem readValue_enclose (admits : quotes.Admits value) (ends : readEnd rest = some behind) :
  (readQuotedValue (quotes.enclose value ++ rest)).or
      (readBareValue (quotes.enclose value ++ rest))
    = some (value, behind)
  := by
  by_cases quoted : quotes = .none
  · subst quoted
    have bare : ∀ c ∈ value, isBare c := by
      intro c inside
      obtain ⟨-, double, single, unblank⟩ := admits
      simp [isBare, unblank c inside, ne_of_mem_of_not_mem inside double,
        ne_of_mem_of_not_mem inside single]
    have stops : ∀ c ∈ rest.head?, isBare c = false := by
      intro c first
      simp [isBare, (eq_of_readEnd ends).2 c first]
    obtain ⟨taken, dropped⟩ := span_append bare stops
    rw [Quotes.enclose, readQuotedValue_of_bare admits, Option.none_or, readBareValue, taken, dropped]
    simp [admits.1, ending, ends]
  · rw [readQuotedValue_enclose quoted admits ends, Option.some_or]

/-- A value does not start with a blank, nor with an equals sign if it stands alone. -/
theorem head?_enclose (admits : quotes.Admits value) :
  ∃ c text, quotes.enclose value = c :: text ∧ isBlank c = false
    ∧ ((quotes = .none → '=' ∉ value) → c ≠ '=')
  := by
  cases quotes with
  | double => exact ⟨_, _, rfl, by decide +kernel, fun _ => by decide⟩
  | single => exact ⟨_, _, rfl, by decide +kernel, fun _ => by decide⟩
  | none =>
    obtain ⟨c, text, rfl, -, -, unblank⟩ := exists_cons_of_admits admits
    refine ⟨c, text, rfl, unblank, ?_⟩
    rintro without rfl
    apply without rfl List.mem_cons_self

theorem skipBlanks_append {blanks : Text} (all : ∀ c ∈ blanks, isBlank c) (rest : Text) :
  skipBlanks (blanks ++ rest) = skipBlanks rest
  := List.dropWhile_append_of_pos all

theorem skipBlanks_cons {c : Char} (unblank : isBlank c = false) (text : Text) :
  skipBlanks (c :: text) = c :: text
  := by simp [skipBlanks, unblank]

/-- A value under a key is read with the key. -/
theorem readNamed_text {key before after : Text} (isKey : Attributes.IsKey key)
    (blank : ∀ c ∈ before, isBlank c) (blank' : ∀ c ∈ after, isBlank c)
    (admits : quotes.Admits value) (ends : readEnd rest = some behind) :
  readNamed ((Written.named key before after quotes value).text ++ rest)
    = some (.named key value, behind)
  := by
  let written := quotes.enclose value ++ rest
  have whole : (Written.named key before after quotes value).text ++ rest
      = key ++ (before ++ '=' :: (after ++ written)) := by
    simp [Written.text, written]
  have stops : ∀ c ∈ (before ++ '=' :: (after ++ written)).head?, isNameChar c = false := by
    intro c first
    cases before with
    | nil =>
      obtain rfl : '=' = c := by simpa using first
      decide +kernel
    | cons d before =>
      obtain rfl : d = c := by simpa using first
      apply isNameChar_of_isBlank (blank d List.mem_cons_self)
  obtain ⟨taken, dropped⟩ := span_append isKey.continues stops
  have equals : Text.after? ['='] (skipBlanks (before ++ '=' :: (after ++ written)))
      = some (after ++ written) := by
    rw [skipBlanks_append blank, skipBlanks_cons (by decide +kernel)]
    apply Text.after?_append
  have skipped : skipBlanks (after ++ written) = written := by
    obtain ⟨c, text, filled, unblank, -⟩ := head?_enclose admits
    rw [skipBlanks_append blank']
    simp only [written, filled, List.cons_append]
    apply skipBlanks_cons unblank
  rw [whole]
  simp [readNamed, taken, dropped, isKey.nonempty, equals, skipped, written,
    readValue_enclose admits ends]

theorem after?_equals_eq_none {text : Text} (other : text.head? ≠ some '=') :
  Text.after? ['='] text = none
  := by
  cases text with
  | nil => rfl
  | cons c text =>
    have unequal : '=' ≠ c := by simpa using Ne.symm other
    simp [Text.after?, unequal]

/-- A value that stands alone is not read with a key. -/
theorem readNamed_eq_none (admits : quotes.Admits value) (without : quotes = .none → '=' ∉ value)
    (ends : readEnd rest = some behind) (apart : (skipBlanks rest).head? ≠ some '=') :
  readNamed (quotes.enclose value ++ rest) = none
  := by
  cases quotes with
  | double =>
    have name : isNameChar '"' = false := by decide +kernel
    simp [Quotes.enclose, readNamed, name]
  | single =>
    have name : isNameChar '\'' = false := by decide +kernel
    simp [Quotes.enclose, readNamed, name]
  | none =>
    have unequal : Text.after? ['='] (skipBlanks ((value ++ rest).dropWhile isNameChar)) = none := by
      cases tail : value.dropWhile isNameChar with
      | nil =>
        -- The value may be a key, but no equals sign follows.
        have continues : ∀ c ∈ value, isNameChar c := List.dropWhile_eq_nil_iff.mp tail
        have stops : ∀ c ∈ rest.head?, isNameChar c = false := by
          intro c first
          apply isNameChar_of_isBlank ((eq_of_readEnd ends).2 c first)
        rw [(span_append continues stops).2]
        apply after?_equals_eq_none apart
      | cons c behindKey =>
        -- The value goes on behind its longest key, without an equals sign.
        obtain ⟨-, -, -, unblank⟩ := admits
        have split : value.takeWhile isNameChar ++ c :: behindKey = value := by
          rw [← tail, List.takeWhile_append_dropWhile]
        have inside : c ∈ value := by
          rw [← split]
          simp
        have other : isNameChar c = false := by
          have := List.head?_dropWhile_not isNameChar value
          simpa [tail] using this
        have left : (value ++ rest).dropWhile isNameChar = c :: (behindKey ++ rest) := by
          rw [← split, List.append_assoc]
          apply (span_append (fun _ => List.mem_takeWhile_imp) _).2
          simpa using other
        rw [left, skipBlanks_cons (unblank c inside)]
        apply after?_equals_eq_none
        simpa using ne_of_mem_of_not_mem inside (without rfl)
    simp [Quotes.enclose, readNamed, unequal]

/-- What is written is read, if no equals sign follows behind blanks. -/
theorem read_text {word : Written} (fits : word.Fits) (ends : readEnd rest = some behind)
    (apart : (skipBlanks rest).head? ≠ some '=') :
  Token.read (word.text ++ rest) = some (word.token, behind)
  := by
  cases word with
  | named key before after quotes value =>
    obtain ⟨isKey, blank, blank', admits⟩ := fits
    rw [Token.read, readNamed_text isKey blank blank' admits ends, Option.some_or]
    rfl
  | positional quotes value =>
    obtain ⟨admits, without⟩ := fits
    rw [Token.read, Written.text, readNamed_eq_none admits without ends apart, Option.none_or]
    by_cases quoted : quotes = .none
    · subst quoted
      have unblank : ∀ c ∈ value, !isBlank c := by
        simpa using admits.2.2.2
      have stops : ∀ c ∈ rest.head?, (!isBlank c) = false := by
        simpa using (eq_of_readEnd ends).2
      obtain ⟨taken, dropped⟩ := span_append unblank stops
      rw [Quotes.enclose, readPositional, readQuotedValue_of_bare admits]
      simp [taken, dropped, admits.1, Written.token, (eq_of_readEnd ends).1]
    · rw [readPositional, readQuotedValue_enclose quoted admits ends]
      rfl

/-! ### Reading a layout -/

/-- A token starts with a character that is neither a blank nor an equals sign. -/
theorem head?_text {word : Written} (fits : word.Fits) :
  ∃ c behind, word.text = c :: behind ∧ isBlank c = false ∧ c ≠ '='
  := by
  cases word with
  | named key before after quotes value =>
    obtain ⟨isKey, -⟩ := fits
    obtain ⟨c, key, rfl⟩ := List.exists_cons_of_ne_nil isKey.nonempty
    have name : isNameChar c := isKey.continues c List.mem_cons_self
    refine ⟨c, _, rfl, ?_, ?_⟩
    · rw [Bool.eq_false_iff]
      intro blank
      rw [isNameChar_of_isBlank blank] at name
      contradiction
    · rintro rfl
      revert name
      decide +kernel
  | positional quotes value =>
    obtain ⟨admits, without⟩ := fits
    obtain ⟨c, behind, written, unblank, unequal⟩ := head?_enclose admits
    exact ⟨c, behind, written, unblank, unequal without⟩

variable {space : Char → Bool} {words : List Written} {body : Text}

/-- A layout is empty or starts with a token. -/
theorem Layout.head? (layout : Layout space words body) :
  ∀ c ∈ body.head?, isBlank c = false ∧ isFiller c = false ∧ c ≠ '='
  := by
  cases layout with
  | nil => simp
  | cons wellFormed =>
    obtain ⟨c, behind, written, unblank, unequal⟩ := head?_text wellFormed.fits
    have plain : isFiller c = false := by
      apply wellFormed.plain
      rw [written]
      apply List.mem_cons_self
    simpa [written] using ⟨unblank, plain, unequal⟩

theorem read_of_isBlank {c : Char} (blank : isBlank c) (text : Text) :
  Token.read (c :: text) = none
  := by
  have double : isBlank '"' = false := by decide +kernel
  have single : isBlank '\'' = false := by decide +kernel
  have unquoted : readQuotedValue (c :: text) = none := by
    unfold readQuotedValue
    split <;> simp_all
  simp [Token.read, readNamed, readPositional, isNameChar_of_isBlank blank, unquoted, blank]

/-- Blanks are passed over. -/
theorem tokens_append {blanks : Text} (all : ∀ c ∈ blanks, isBlank c) (rest : Text) :
  tokens (blanks ++ rest) = tokens rest
  := by
  induction blanks with
  | nil => rfl
  | cons c blanks ih =>
    rw [List.forall_mem_cons] at all
    rw [← ih all.2]
    exact Text.items_of_skip (read_of_isBlank all.1 _)

/-- The tokens of a layout are read one by one. -/
theorem tokens_of_layout (layout : Layout isBlank words body) :
  tokens body = words.map Written.token
  := by
  induction layout with
  | nil => rfl
  | @cons word words gap rest wellFormed spaces apart others ih =>
    obtain ⟨first, behind, written, -⟩ := head?_text wellFormed.fits
    rw [List.map_cons, ← ih]
    cases gap with
    | nil =>
      obtain rfl : words = [] := by
        by_contra more
        exact apart more rfl
      cases others
      apply Text.items_of_read
      · simp [written]
      · apply read_text wellFormed.fits rfl
        simp [skipBlanks]
    | cons blank gap =>
      -- The first blank of the gap is read with the token.
      have split : word.text ++ (blank :: gap ++ rest) = (word.text ++ [blank]) ++ (gap ++ rest) := by
        simp
      have equals : (skipBlanks (blank :: gap ++ rest)).head? ≠ some '=' := by
        intro first
        rw [skipBlanks_append spaces] at first
        cases rest with
        | nil => simp [skipBlanks] at first
        | cons c rest =>
          obtain ⟨unblank, -, unequal⟩ := others.head? c rfl
          rw [skipBlanks_cons unblank] at first
          exact unequal (Option.some.inj first)
      rw [List.forall_mem_cons] at spaces
      have ends : readEnd (blank :: gap ++ rest) = some (gap ++ rest) := by
        simp [readEnd, spaces.1]
      have read := read_text wellFormed.fits ends equals
      rw [split] at read ⊢
      rw [← tokens_append spaces.2 rest]
      apply Text.items_of_read _ read
      simp [written]

/-- Normalized gaps consist of blanks. -/
theorem isBlank_of_mem_normalizeSpaces {gap : Text} (spaces : ∀ c ∈ gap, isSpace c) :
  ∀ c ∈ normalizeSpaces gap, isBlank c
  := by
  intro c inside
  have plain := isFiller_of_mem_normalizeSpaces inside
  rcases eq_or_mem_of_mem_normalizeSpaces inside with rfl | inside
  · decide +kernel
  · simpa [isSpace, plain] using spaces c inside

/-- Normalizing a layout turns its gaps into blanks and leaves its tokens as they are. -/
theorem layout_normalizeSpaces (layout : Layout isSpace words body) :
  Layout isBlank words (normalizeSpaces body)
  := by
  induction layout with
  | nil => exact .nil
  | cons wellFormed spaces apart others ih =>
    have starts := fun c first => (others.head? c first).2.1
    rw [normalizeSpaces_append_of_plain wellFormed.plain, normalizeSpaces_append starts]
    apply Layout.cons wellFormed _ _ ih
    · apply isBlank_of_mem_normalizeSpaces spaces
    · intro more
      apply normalizeSpaces_ne_nil (apart more)

/-- The tokens of a layout are those that are read once fillers are normalized. -/
theorem tokens_normalizeSpaces {gap : Text} (spaces : ∀ c ∈ gap, isSpace c)
    (layout : Layout isSpace words body) :
  tokens (normalizeSpaces (gap ++ body)) = words.map Written.token
  := by
  have starts := fun c first => (layout.head? c first).2.1
  rw [normalizeSpaces_append starts, tokens_append (isBlank_of_mem_normalizeSpaces spaces)]
  apply tokens_of_layout (layout_normalizeSpaces layout)

end Token

/-! ### What the tokens stand for -/

namespace Token.Written

/-- A value without its escapes, or the empty text if it opens markup without closing it. -/
def meaning (value : Text) : Text :=
  if MarkupClosed (unescape value) then unescape value else []

/-- The entry that a token with a key stands for. -/
def entry? : Written → Option (Text × Text)
  | .named key _ _ _ value => some (lower key, meaning value)
  | .positional _ _ => none

/-- The value that a token without a key stands for, if it is bare or has characters. -/
def member? : Written → Option Text
  | .named _ _ _ _ _ => none
  | .positional quotes value => if quotes ≠ .none ∧ value = [] then none else some (meaning value)

/-- The attributes that written tokens stand for. -/
def attributes (words : List Written) : Attributes :=
  match words.filterMap entry? with
  | [] => .positional (words.filterMap member?)
  | pairs => .named (.firsts pairs)

end Token.Written

namespace Attributes

open Token (Written Layout isSpace)

variable {words : List Written}

theorem rejectOpenMarkup_unescape (value : Text) :
  rejectOpenMarkup (unescape value) = Written.meaning value
  := by simp only [rejectOpenMarkup, Written.meaning, closesMarkup_iff]

theorem namedOf_concat (tokens : List Token) (token : Token) :
  namedOf (tokens ++ [token])
    = match token with
      | .named key value => Entries.putNew (lower key) (unescape value) (namedOf tokens)
      | .positional _ => namedOf tokens
  := by
  rw [namedOf, List.foldl_append]
  rfl

/-- The named values are the first ones under their keys. -/
theorem map_namedOf (words : List Written) :
  (namedOf (words.map Written.token)).map (fun entry => (entry.1, rejectOpenMarkup entry.2))
    = Entries.firsts (words.filterMap Written.entry?)
  := by
  induction words using List.reverseRecOn with
  | nil => rfl
  | append_singleton words word ih =>
    rw [List.map_append, List.filterMap_append, List.map_singleton, namedOf_concat]
    cases word with
    | named key before after quotes value =>
      change List.map _ (Entries.putNew (lower key) (unescape value) _)
        = Entries.firsts (_ ++ [(lower key, Written.meaning value)])
      rw [Entries.map_putNew, ih, Entries.firsts_concat, rejectOpenMarkup_unescape]
    | positional quotes value =>
      change List.map _ (namedOf (words.map Written.token)) = Entries.firsts (_ ++ [])
      rw [ih, List.append_nil]

/-- The positional values are those that are bare or have characters. -/
theorem map_positionalOf (fit : ∀ word ∈ words, word.Fits) :
  (positionalOf (words.map Written.token)).map rejectOpenMarkup = words.filterMap Written.member?
  := by
  rw [positionalOf, List.filterMap_map, List.map_filterMap]
  apply List.filterMap_congr
  intro word inside
  cases word with
  | named key before after quotes value => rfl
  | positional quotes value =>
    by_cases empty : value = []
    · subst empty
      have quoted : quotes ≠ .none := by
        rintro rfl
        exact (fit _ inside).1.1 rfl
      simp [Written.token, Written.member?, quoted]
    · simp [Written.token, Written.member?, empty, rejectOpenMarkup_unescape]

/-- Tokens as they are written give the attributes that they stand for. -/
theorem ofTokens_map_token (fit : ∀ word ∈ words, word.Fits) :
  ofTokens (words.map Written.token) = Written.attributes words
  := by
  have named := map_namedOf words
  rw [ofTokens, Written.attributes]
  cases found : namedOf (words.map Written.token) with
  | nil =>
    rw [found] at named
    cases pairs : words.filterMap Written.entry? with
    | nil =>
      change Attributes.positional _ = _
      rw [map_positionalOf fit]
    | cons pair pairs =>
      rw [pairs] at named
      contradiction
  | cons entry entries =>
    rw [found] at named
    change Attributes.named (List.map _ (entry :: entries)) = _
    rw [named]
    cases pairs : words.filterMap Written.entry? with
    | nil =>
      rw [pairs] at named
      contradiction
    | cons pair pairs => rfl

theorem fits_of_layout {space : Char → Bool} {body : Text} (layout : Layout space words body) :
  ∀ word ∈ words, word.Fits
  := by
  induction layout with
  | nil => simp
  | cons wellFormed _ _ _ ih => exact List.forall_mem_cons.mpr ⟨wellFormed.fits, ih⟩

/-- A layout of tokens is parsed to what its tokens stand for. -/
theorem parse_of_layout {gap body : Text} (spaces : ∀ c ∈ gap, isSpace c)
    (layout : Layout isSpace words body) :
  parse (gap ++ body) = Written.attributes words
  := by
  rw [parse, Token.tokens_normalizeSpaces spaces layout]
  apply ofTokens_map_token (fits_of_layout layout)

/-- Named values of all kinds, a key that is repeated in another case, and positional values that
are dropped; and positional values alone, one of them between quotes and empty. -/
theorem parse_of_layout_of_mixed :
  parse "\u200B Src =\t\"a'<i>\" word\u00A0src='x' w-1=a=b k='<i' \"\" ".toList
      = .named [("src".toList, "a'<i>".toList), ("w-1".toList, "a=b".toList), ("k".toList, [])]
    ∧ parse "'a' \"\"\u200B\\x41b".toList = .positional ["a".toList, "Ab".toList]
  := by
  have space : isSpace ' ' := by decide +kernel
  have noBreak : isSpace '\u00A0' := by decide +kernel
  have zeroWidth : isSpace '\u200B' := by decide +kernel
  constructor
  · let words : List Written :=
      [.named "Src".toList [' '] ['\t'] .double "a'<i>".toList, .positional .none "word".toList,
        .named "src".toList [] [] .single "x".toList, .named "w-1".toList [] [] .none "a=b".toList,
        .named "k".toList [] [] .single "<i".toList, .positional .double []]
    have layout : Layout isSpace words _ :=
      @Layout.cons _ _ _ [' '] _ (by decide +kernel) (by simp [space]) (by simp) <|
      @Layout.cons _ _ _ ['\u00A0'] _ (by decide +kernel) (by simp [noBreak]) (by simp) <|
      @Layout.cons _ _ _ [' '] _ (by decide +kernel) (by simp [space]) (by simp) <|
      @Layout.cons _ _ _ [' '] _ (by decide +kernel) (by simp [space]) (by simp) <|
      @Layout.cons _ _ _ [' '] _ (by decide +kernel) (by simp [space]) (by simp) <|
      @Layout.cons _ _ _ [' '] _ (by decide +kernel) (by simp [space]) (by simp) .nil
    have spaces : ∀ c ∈ ['\u200B', ' '], isSpace c := by simp [space, zeroWidth]
    exact (parse_of_layout spaces layout).trans (by decide +kernel)
  · let words : List Written :=
      [.positional .single "a".toList, .positional .double [], .positional .none "\\x41b".toList]
    have layout : Layout isSpace words _ :=
      @Layout.cons _ _ _ [' '] _ (by decide +kernel) (by simp [space]) (by simp) <|
      @Layout.cons _ _ _ ['\u200B'] _ (by decide +kernel) (by simp [zeroWidth]) (by simp) <|
      @Layout.cons _ _ _ [] _ (by decide +kernel) (by simp) (by simp) .nil
    have spaces : ∀ c ∈ ([] : Text), isSpace c := by simp
    exact (parse_of_layout spaces layout).trans (by decide +kernel)

end Attributes

end Shortcode
