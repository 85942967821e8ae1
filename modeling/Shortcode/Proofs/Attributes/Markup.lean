import Shortcode.Proofs.Attributes.Grammar

/-!
# Markup in values

A value closes its markup if it alternates between runs without a `<` and pieces of markup, each
from a `<` to the first `>` behind it.  A piece may contain further `<`, so this asks for no more
than a `>` behind each `<` (`markupRuns_iff`).  The check is made of each value once its escapes
are resolved, so no value of any attributes has an open `<` (`kept_and_closed`).
-/

namespace Shortcode

/-- The text alternates between runs without a `<` and pieces of markup, each of which reaches
from a `<` to the first `>` behind it. -/
inductive MarkupRuns : Text → Prop where
  | plain {run : Text} (plain : '<' ∉ run) : MarkupRuns run
  | piece {run inner rest : Text} (plain : '<' ∉ run) (inside : '>' ∉ inner)
    (others : MarkupRuns rest) : MarkupRuns (run ++ '<' :: inner ++ '>' :: rest)

theorem markupClosed_of_not_mem {text : Text} (plain : '<' ∉ text) :
  MarkupClosed text
  := by
  rintro front rest rfl
  simp at plain

/-- All that is opened in front of a `>` is closed. -/
theorem markupClosed_append_cons_iff {front rest : Text} :
  MarkupClosed (front ++ '>' :: rest) ↔ MarkupClosed rest
  := by
  induction front with
  | nil => simp [markupClosed_cons_iff]
  | cons c front ih => simp [markupClosed_cons_iff, ih]

/-- A `<` inside a piece of markup makes no difference. -/
theorem markupRuns_iff {text : Text} :
  MarkupRuns text ↔ MarkupClosed text
  := by
  constructor
  · intro runs
    induction runs with
    | plain plain => apply markupClosed_of_not_mem plain
    | piece _ _ _ ih => apply markupClosed_append_cons_iff.mpr ih
  · intro closed
    induction length : text.length using Nat.strongRecOn generalizing text with
    | ind n ih =>
      by_cases opens : '<' ∈ text
      · obtain ⟨run, behind, rfl, plain⟩ := List.eq_append_cons_of_mem opens
        have close := closed run behind rfl
        obtain ⟨inner, rest, rfl, inside⟩ := List.eq_append_cons_of_mem close
        have whole :
          run ++ '<' :: (inner ++ '>' :: rest) = run ++ '<' :: inner ++ '>' :: rest
          := by simp
        rw [whole] at closed length ⊢
        apply MarkupRuns.piece plain inside
        apply ih rest.length _ (markupClosed_append_cons_iff.mp closed) rfl
        rw [← length]
        simp only [List.length_append, List.length_cons]
        omega
      · apply MarkupRuns.plain opens

/-- A value is emptied exactly if it opens markup that it does not close. -/
theorem rejectOpenMarkup_eq (value : Text) :
  rejectOpenMarkup value = if MarkupClosed value then value else []
  := by simp only [rejectOpenMarkup, closesMarkup_iff]

theorem markupClosed_rejectOpenMarkup (value : Text) :
  MarkupClosed (rejectOpenMarkup value)
  := by
  rw [rejectOpenMarkup_eq]
  split
  · assumption
  · apply markupClosed_of_not_mem
    simp

/-! ### The values of attributes -/

/-- The value of a token as it is written. -/
def Token.value : Token → Text
  | .named _ value => value
  | .positional value => value

namespace Attributes

/-- The values, whether they have names or not. -/
def values : Attributes → List Text
  | .named entries => entries.map Prod.snd
  | .positional values => values

variable {tokens : List Token}

theorem exists_token_of_mem_namedOf {entry : Text × Text} (inside : entry ∈ namedOf tokens) :
  ∃ token ∈ tokens, entry.2 = unescape token.value
  := by
  induction tokens using List.reverseRecOn with
  | nil => contradiction
  | append_singleton tokens token ih =>
    have earlier : entry ∈ namedOf tokens →
        ∃ token' ∈ tokens ++ [token], entry.2 = unescape token'.value := by
      intro inside
      obtain ⟨token', found, same⟩ := ih inside
      exact ⟨token', List.mem_append_left _ found, same⟩
    rw [namedOf_concat] at inside
    cases token with
    | positional value => apply earlier inside
    | named key value =>
      dsimp only [Entries.putNew] at inside
      split at inside
      · apply earlier inside
      · rcases List.mem_append.mp inside with inside | inside
        · apply earlier inside
        · obtain rfl := List.mem_singleton.mp inside
          use .named key value, List.mem_concat_self
          rfl

theorem exists_token_of_mem_positionalOf {value : Text} (inside : value ∈ positionalOf tokens) :
  ∃ token ∈ tokens, value = unescape token.value
  := by
  obtain ⟨token, found, given⟩ := List.mem_filterMap.mp inside
  use token, found
  cases token with
  | named key written => contradiction
  | positional written =>
    dsimp only at given
    split at given
    · contradiction
    · obtain rfl := Option.some.inj given
      rfl

/-- The values are those of tokens, without their escapes, and they are checked behind that. -/
theorem exists_values_ofTokens (tokens : List Token) :
  ∃ resolved : List Text, (ofTokens tokens).values = resolved.map rejectOpenMarkup
    ∧ ∀ value ∈ resolved, ∃ token ∈ tokens, value = unescape token.value
  := by
  cases found : namedOf tokens with
  | nil =>
    use positionalOf tokens
    constructor
    · rw [ofTokens, found]
      rfl
    · intro value inside
      apply exists_token_of_mem_positionalOf inside
  | cons entry entries =>
    use (entry :: entries).map Prod.snd
    constructor
    · rw [ofTokens, found, values, List.map_map, List.map_map]
      rfl
    · intro value inside
      rw [← found] at inside
      obtain ⟨member, kept, rfl⟩ := List.mem_map.mp inside
      apply exists_token_of_mem_namedOf kept

/-- A value is kept as it is if each of its `<` has a `>` behind it, which is to say that plain
runs and pieces of markup alternate in it, and is emptied otherwise.  Each value of attributes is
what is kept of the value of a token, its escapes resolved, so in none of them a `<` stands
without a `>` behind it. -/
theorem kept_and_closed :
  (∀ value,
      (MarkupRuns value ↔ MarkupClosed value)
        ∧ (MarkupClosed value → rejectOpenMarkup value = value)
        ∧ (¬ MarkupClosed value → rejectOpenMarkup value = []))
    ∧ ∀ text,
      (∃ resolved : List Text, (parse text).values = resolved.map rejectOpenMarkup
        ∧ ∀ value ∈ resolved, ∃ token ∈ Token.tokens (normalizeSpaces text),
          value = unescape token.value)
        ∧ ∀ value ∈ (parse text).values, MarkupClosed value
  := by
  constructor
  · intro value
    rw [rejectOpenMarkup_eq]
    exact ⟨markupRuns_iff, fun closed => if_pos closed, fun open' => if_neg open'⟩
  · intro text
    obtain ⟨resolved, checked, sources⟩ :=
      exists_values_ofTokens (Token.tokens (normalizeSpaces text))
    refine ⟨⟨resolved, checked, sources⟩, ?_⟩
    intro value inside
    rw [parse, checked] at inside
    obtain ⟨source, -, rfl⟩ := List.mem_map.mp inside
    apply markupClosed_rejectOpenMarkup

/-- The escapes stand for a `<` and for a `>`. -/
example :
  (parse r"x='\x3cb' y='<<b\x3e' z=<".toList).values = ["".toList, "<<b>".toList, "".toList]
  := by decide +kernel

end Attributes

end Shortcode
