import Shortcode.Proofs.Attributes.Grammar
import Shortcode.Proofs.Tag.Written
import Shortcode.Proofs.Text.Masked

/-!
# Reading written attributes

Values of any kind can be written as attributes, by masking what has a meaning of its own there
and by quoting the rest: named ones by `writeNamed`, and positional ones by `writePositional`.
What is written is a layout of tokens (`exists_layout`), so parsing gives the values back, of
several ones under the same key the first (`parse_writeNamed`, `parse_writePositional`).
-/

namespace Shortcode

namespace Token

/-- A value between double quotes. -/
def quoted (value : Text) : Text := '"' :: (value ++ ['"'])

/-- A key and a value between double quotes. -/
def pair (key value : Text) : Text := key ++ '=' :: quoted value

end Token

/-! ### Written attributes -/

namespace Attributes

variable (digits : Digits)

/-- Named values as they are written: masked, between double quotes, each behind a space. -/
def writeNamed (pairs : List (Text × Text)) : Text :=
  pairs.flatMap fun pair => ' ' :: Token.pair pair.1 (digits.mask pair.2)

/-- Positional values as they are written: masked, between double quotes, each behind a space. -/
def writePositional (values : List Text) : Text :=
  values.flatMap fun value => ' ' :: Token.quoted (digits.mask value)

/-- The pairs with their keys in lower case. -/
def lowered (pairs : List (Text × Text)) : List (Text × Text) :=
  pairs.map fun pair => (lower pair.1, pair.2)

variable {digits}

/-- No double quote stands in a masked text. -/
theorem quote_not_mem_mask (value : Text) :
  '"' ∉ digits.mask value
  := digits.not_mem_mask (by decide) (by decide) value

/-! ### What is written is left alone -/

/-- The character is neither a bracket nor a filler. -/
structure Harmless (c : Char) : Prop where
  unopened : c ≠ '['
  unclosed : c ≠ ']'
  filled : isFiller c = false

theorem harmless_of_isNameChar {c : Char} (continues : isNameChar c) :
  Harmless c
  := by
  have plain := isDelimiter_of_isNameChar continues
  constructor
  · rintro rfl
    exact absurd plain (by decide)
  · rintro rfl
    exact absurd plain (by decide)
  · rw [Bool.eq_false_iff]
    intro filler
    rcases eq_of_isFiller filler with rfl | rfl
    · revert continues
      decide +kernel
    · revert continues
      decide +kernel

theorem harmless_of_mem_mask {value : Text} {c : Char} (inside : c ∈ digits.mask value) :
  Harmless c
  := by
  constructor
  · rintro rfl
    apply digits.not_mem_mask (by decide) (by decide) value inside
  · rintro rfl
    apply digits.not_mem_mask (by decide) (by decide) value inside
  · apply digits.isFiller_of_mem_mask inside

theorem harmless_of_mem_quoted {value : Text} :
  ∀ c ∈ Token.quoted (digits.mask value), Harmless c
  := by
  have quote : Harmless '"' := ⟨by decide, by decide, by decide⟩
  intro c inside
  rw [Token.quoted, List.mem_cons, List.mem_append, List.mem_singleton] at inside
  rcases inside with rfl | inside | rfl
  · apply quote
  · apply harmless_of_mem_mask inside
  · apply quote

theorem harmless_of_mem_pair {key value : Text} (isKey : IsKey key) :
  ∀ c ∈ Token.pair key (digits.mask value), Harmless c
  := by
  intro c inside
  rw [Token.pair, List.mem_append, List.mem_cons] at inside
  rcases inside with inside | rfl | inside
  · apply harmless_of_isNameChar (isKey.continues c inside)
  · exact ⟨by decide, by decide, by decide⟩
  · apply harmless_of_mem_quoted c inside

section Spaced

variable {α : Type} {as : List α} {word : α → Text}

theorem harmless_of_mem_spaced (harmless : ∀ a ∈ as, ∀ c ∈ word a, Harmless c) :
  ∀ c ∈ as.flatMap fun a => ' ' :: word a, Harmless c
  := by
  intro c inside
  obtain ⟨a, member, inside⟩ := List.mem_flatMap.mp inside
  rcases List.mem_cons.mp inside with rfl | inside
  · exact ⟨by decide, by decide, by decide⟩
  · apply harmless a member c inside

/-- Words of harmless characters behind spaces are plain attributes, if they do not end with
slashes. -/
theorem plainAttributes_spaced (harmless : ∀ a ∈ as, ∀ c ∈ word a, Harmless c)
    (ends : ∀ a ∈ as, (word a).getLast? = some '"') :
  PlainAttributes (as.flatMap fun a => ' ' :: word a)
  := by
  constructor
  · cases as with
    | nil => exact .inl rfl
    | cons a as => exact .inr rfl
  · intro inside
    exact (harmless_of_mem_spaced harmless _ inside).unopened rfl
  · intro inside
    exact (harmless_of_mem_spaced harmless _ inside).unclosed rfl
  · clear harmless
    induction as with
    | nil => simp
    | cons a as ih =>
      rw [List.forall_mem_cons] at ends
      have last : (' ' :: word a).getLast? = some '"' := by simp [List.getLast?_cons, ends.1]
      rw [List.flatMap_cons, List.getLast?_append, last]
      have behind := ih ends.2
      cases tail : (as.flatMap fun a => ' ' :: word a).getLast? with
      | none => simp
      | some c =>
        rw [tail] at behind
        simpa using behind

end Spaced

/-- Named values are written as plain attributes. -/
theorem plainAttributes_writeNamed {pairs : List (Text × Text)}
    (keys : ∀ pair ∈ pairs, IsKey pair.1) :
  PlainAttributes (writeNamed digits pairs)
  := by
  apply plainAttributes_spaced
  · intro pair inside
    apply harmless_of_mem_pair (keys pair inside)
  · intro pair _
    simp [Token.pair, Token.quoted, List.getLast?_cons]

/-- Positional values are written as plain attributes. -/
theorem plainAttributes_writePositional (values : List Text) :
  PlainAttributes (writePositional digits values)
  := by
  apply plainAttributes_spaced
  · intro value _
    apply harmless_of_mem_quoted
  · intro value _
    simp [Token.quoted, List.getLast?_cons]

/-! ### What is read -/

/-- Tokens that stand behind one space each are laid out. -/
theorem exists_layout {word : Token.Written} {words : List Token.Written}
    (wellFormed : ∀ other ∈ word :: words, other.WellFormed) :
  ∃ body, ((word :: words).flatMap fun word => ' ' :: word.text) = [' '] ++ body
    ∧ Token.Layout Token.isSpace (word :: words) body
  := by
  have space : Token.isSpace ' ' := by decide +kernel
  induction words generalizing word with
  | nil =>
    use word.text ++ ([] ++ [])
    constructor
    · simp
    · exact .cons (wellFormed word List.mem_cons_self) (by simp) (by simp) .nil
  | cons next words ih =>
    rw [List.forall_mem_cons] at wellFormed
    obtain ⟨body, whole, layout⟩ := ih wellFormed.2
    use word.text ++ ([' '] ++ body)
    constructor
    · rw [List.flatMap_cons, whole]
      rfl
    · exact .cons wellFormed.1 (by simp [space]) (by simp) layout

/-- Tokens that stand behind one space each are parsed to what they stand for. -/
theorem parse_spaced {words : List Token.Written} (wellFormed : ∀ word ∈ words, word.WellFormed) :
  parse (words.flatMap fun word => ' ' :: word.text) = Token.Written.attributes words
  := by
  cases words with
  | nil => rfl
  | cons word words =>
    have space : Token.isSpace ' ' := by decide +kernel
    have spaces : ∀ c ∈ [' '], Token.isSpace c := by simp [space]
    obtain ⟨body, whole, layout⟩ := exists_layout wellFormed
    rw [whole, parse, Token.tokens_normalizeSpaces spaces layout]
    apply ofTokens_map_token (fits_of_layout layout)

theorem meaning_mask {value : Text} (closed : MarkupClosed value) :
  Token.Written.meaning (digits.mask value) = value
  := by rw [Token.Written.meaning, digits.unescape_mask, if_pos closed]

/-- Named values are read back, the first one under each key. -/
theorem parse_writeNamed {pairs : List (Text × Text)} (nonempty : pairs ≠ [])
    (keys : ∀ pair ∈ pairs, IsKey pair.1) (closed : ∀ pair ∈ pairs, MarkupClosed pair.2) :
  parse (writeNamed digits pairs) = .named (.firsts (lowered pairs))
  := by
  let word : Text × Text → Token.Written := fun pair =>
    .named pair.1 [] [] .double (digits.mask pair.2)
  have wellFormed : ∀ written ∈ pairs.map word, written.WellFormed := by
    intro written inside
    obtain ⟨pair, member, rfl⟩ := List.mem_map.mp inside
    constructor
    · exact ⟨keys pair member, by simp, by simp, quote_not_mem_mask pair.2⟩
    · intro c within
      exact (harmless_of_mem_pair (keys pair member) c within).filled
  have entries : (pairs.map word).filterMap Token.Written.entry? = lowered pairs := by
    rw [List.filterMap_map, lowered, ← List.filterMap_eq_map]
    apply List.filterMap_congr
    intro pair member
    simp [word, Token.Written.entry?, meaning_mask (closed pair member)]
  have written : writeNamed digits pairs
      = (pairs.map word).flatMap fun word => ' ' :: word.text := by
    rw [List.flatMap_map]
    rfl
  rw [written, parse_spaced wellFormed, Token.Written.attributes, entries]
  obtain ⟨pair, pairs, rfl⟩ := List.exists_cons_of_ne_nil nonempty
  rfl

/-- Positional values are read back. -/
theorem parse_writePositional {values : List Text} (nonempty : ∀ value ∈ values, value ≠ [])
    (closed : ∀ value ∈ values, MarkupClosed value) :
  parse (writePositional digits values) = .positional values
  := by
  let word : Text → Token.Written := fun value => .positional .double (digits.mask value)
  have wellFormed : ∀ written ∈ values.map word, written.WellFormed := by
    intro written inside
    obtain ⟨value, -, rfl⟩ := List.mem_map.mp inside
    constructor
    · exact ⟨quote_not_mem_mask value, by simp⟩
    · intro c within
      exact (harmless_of_mem_quoted c within).filled
  have entries : (values.map word).filterMap Token.Written.entry? = [] := by
    rw [List.filterMap_map]
    apply List.filterMap_eq_nil_iff.mpr
    intro value _
    rfl
  have members : (values.map word).filterMap Token.Written.member? = values := by
    have kept : values.filterMap (Token.Written.member? ∘ word) = values.filterMap some := by
      apply List.filterMap_congr
      intro value member
      simp [word, Token.Written.member?, digits.mask_ne_nil (nonempty value member),
        meaning_mask (closed value member)]
    rw [List.filterMap_map, kept, List.filterMap_some]
  have written : writePositional digits values
      = (values.map word).flatMap fun word => ' ' :: word.text := by
    rw [List.flatMap_map]
    rfl
  rw [written, parse_spaced wellFormed, Token.Written.attributes, entries, members]

end Attributes

end Shortcode
