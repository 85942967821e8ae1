import Mathlib.Data.List.Forall2
import Mathlib.Tactic.Common
import Shortcode.Text.Escapes

/-!
# Spelled texts

The characters of a value can be spelled in several ways: most of them stand for themselves, alone
or behind a backslash, some control characters have a letter, and any character can be given by
the bytes of its UTF-8 form, each of them in hexadecimal or octal digits (`Spells`).  However the
spellings are chosen, character by character, resolving the escapes gives the text back
(`unescape_spelled`).

Bytes are decoded together with those before them, whatever characters they belong to.  So what a
written text resolves to is stated behind the bytes of any other text (`Resolves`).
-/

namespace Shortcode

/-- The character is the hexadecimal digit of the given value, in either case. -/
def IsHexDigit (n : Nat) (c : Char) : Prop :=
  "0123456789abcdef".toList[n]? = some c ∨ "0123456789ABCDEF".toList[n]? = some c

/-- The character is the octal digit of the given value. -/
def IsOctalDigit (n : Nat) (c : Char) : Prop := "01234567".toList[n]? = some c

instance (n : Nat) (c : Char) : Decidable (IsHexDigit n c) :=
  inferInstanceAs (Decidable (_ ∨ _))

instance (n : Nat) (c : Char) : Decidable (IsOctalDigit n c) :=
  inferInstanceAs (Decidable (_ = _))

/-- How a byte is spelled: in two hexadecimal digits or in three octal ones. -/
inductive SpellsByte (b : UInt8) : Text → Prop where
  | hex {c d : Char} (high : IsHexDigit (b.toNat / 16) c) (low : IsHexDigit (b.toNat % 16) d) :
    SpellsByte b ['\\', 'x', c, d]
  | octal {c d e : Char} (high : IsOctalDigit (b.toNat / 64) c)
    (middle : IsOctalDigit (b.toNat / 8 % 8) d) (low : IsOctalDigit (b.toNat % 8) e) :
    SpellsByte b ['\\', c, d, e]

/-- The letters behind a backslash and the numbers of the control characters that they denote. -/
def controlLetters : List (Char × Nat) :=
  [('a', 0x07), ('b', 0x08), ('t', 0x09), ('n', 0x0A), ('v', 0x0B), ('f', 0x0C), ('r', 0x0D)]

/-- How a character is spelled. -/
inductive Spells (c : Char) : Text → Prop where
  /-- The character stands for itself. -/
  | plain (other : c ≠ '\\') : Spells c [c]
  /-- Behind a backslash, the character stands for itself. -/
  | escaped (other : c ∉ "abfnrtvx01234567".toList) : Spells c ['\\', c]
  /-- A letter denotes the control character. -/
  | letter {l : Char} (denotes : (l, c.toNat) ∈ controlLetters) : Spells c ['\\', l]
  /-- The bytes of the UTF-8 form are spelled. -/
  | bytes {spellings : List Text}
    (spelled : List.Forall₂ SpellsByte (String.utf8EncodeChar c) spellings) :
    Spells c spellings.flatten

/-! ### Reading spellings -/

/-- What holds of the characters of a block, counted from the first one, holds of each of them. -/
theorem forall_block {P : Nat → Char → Prop} {first last : Char}
    (all : ∀ k < last.toNat - first.toNat + 1, P k (Char.ofNat (first.toNat + k))) {c : Char}
    (low : first ≤ c) (high : c ≤ last) :
  P (c.toNat - first.toNat) c
  := by
  have bound : first.toNat ≤ c.toNat := low
  have bound' : c.toNat ≤ last.toNat := high
  have here := all (c.toNat - first.toNat) (by omega)
  rwa [Nat.add_sub_cancel' bound, Char.ofNat_toNat] at here

/-- The hexadecimal digits are the characters that have a value as such. -/
theorem hexValue?_eq_some_iff {n : Nat} {c : Char} :
  hexValue? c = some n ↔ IsHexDigit n c
  := by
  constructor
  · intro worth
    unfold hexValue? at worth
    split_ifs at worth with digit small capital
    · obtain rfl := Option.some.inj worth
      apply forall_block (P := IsHexDigit) (by decide) digit.1 digit.2
    · obtain rfl := Option.some.inj worth
      apply forall_block (P := fun k => IsHexDigit (k + 10)) (by decide) small.1 small.2
    · obtain rfl := Option.some.inj worth
      apply forall_block (P := fun k => IsHexDigit (k + 10)) (by decide) capital.1 capital.2
  · have lower : ∀ n : Fin 16, hexValue? "0123456789abcdef".toList[n] = some n.val := by decide
    have upper : ∀ n : Fin 16, hexValue? "0123456789ABCDEF".toList[n] = some n.val := by decide
    rintro (found | found)
    · obtain ⟨small, rfl⟩ := List.getElem?_eq_some_iff.mp found
      apply lower ⟨n, small⟩
    · obtain ⟨small, rfl⟩ := List.getElem?_eq_some_iff.mp found
      apply upper ⟨n, small⟩

/-- The octal digits are the characters that have a value as such. -/
theorem octalValue?_eq_some_iff {n : Nat} {c : Char} :
  octalValue? c = some n ↔ IsOctalDigit n c
  := by
  constructor
  · intro worth
    unfold octalValue? at worth
    split_ifs at worth with digit
    obtain rfl := Option.some.inj worth
    apply forall_block (P := IsOctalDigit) (by decide) digit.1 digit.2
  · have worth : ∀ n : Fin 8, octalValue? "01234567".toList[n] = some n.val := by decide
    intro found
    obtain ⟨small, rfl⟩ := List.getElem?_eq_some_iff.mp found
    apply worth ⟨n, small⟩

theorem ne_of_octalValue? {n : Nat} {c : Char} (digit : octalValue? c = some n) :
  c ≠ 'x'
  := by
  rintro rfl
  contradiction

/-- What does not start with `x` is a byte only if it starts with an octal digit. -/
theorem readByte?_of_ne {c : Char} (other : c ≠ 'x') (rest : Text) :
  readByte? (c :: rest) = readNumber? octalValue? 8 2 (c :: rest)
  := by
  unfold readByte?
  split
  · simp_all
  · rfl

/-- A spelled byte is read as that byte, whatever follows. -/
theorem readEscape_of_spellsByte {b : UInt8} {spelling : Text} (spelled : SpellsByte b spelling)
    (rest : Text) :
  readEscape (spelling ++ rest) = some (.byte b, rest)
  := by
  cases spelled with
  | hex high low =>
    have worth : b.toNat / 16 * 16 + b.toNat % 16 = b.toNat := by omega
    simp [readEscape, readByte?, readNumber?, readDigits, hexValue?_eq_some_iff.mpr high,
      hexValue?_eq_some_iff.mpr low, worth]
  | octal high middle low =>
    have first := octalValue?_eq_some_iff.mpr high
    have worth : (b.toNat / 64 * 8 + b.toNat / 8 % 8) * 8 + b.toNat % 8 = b.toNat := by omega
    have other := ne_of_octalValue? first
    simp [readEscape, readByte?_of_ne other, readNumber?, readDigits, first,
      octalValue?_eq_some_iff.mpr middle, octalValue?_eq_some_iff.mpr low, worth]

/-- A character behind a backslash that begins no byte is read as what it denotes. -/
theorem readEscape_of_char {c : Char} (other : c ≠ 'x') (undigit : octalValue? c = none)
    (rest : Text) :
  readEscape ('\\' :: c :: rest) = some (.char (escapedChar c), rest)
  := by simp [readEscape, readByte?_of_ne other, readNumber?, undigit]

/-- Only behind a backslash something is read. -/
theorem readEscape_of_ne {c : Char} (other : c ≠ '\\') (rest : Text) :
  readEscape (c :: rest) = none
  := by
  unfold readEscape
  split
  · simp_all
  · rfl

/-- The letters of control characters denote these. -/
theorem readEscape_of_letter {l c : Char} (denotes : (l, c.toNat) ∈ controlLetters) (rest : Text) :
  readEscape ('\\' :: l :: rest) = some (.char c, rest)
  := by
  have letters : ∀ entry ∈ controlLetters, entry.1 ≠ 'x' ∧ octalValue? entry.1 = none
      ∧ escapedChar entry.1 = Char.ofNat entry.2 := by decide
  obtain ⟨other, undigit, control⟩ := letters _ denotes
  rw [readEscape_of_char other undigit, control, Char.ofNat_toNat]

/-- Characters that neither are letters of control characters nor begin bytes denote themselves. -/
theorem readEscape_of_escaped {c : Char} (other : c ∉ "abfnrtvx01234567".toList) (rest : Text) :
  readEscape ('\\' :: c :: rest) = some (.char c, rest)
  := by
  have undigit : octalValue? c = none := by
    rw [Option.eq_none_iff_forall_ne_some]
    intro n digit
    have inside := List.mem_of_getElem? (octalValue?_eq_some_iff.mp digit)
    apply other (List.mem_append_right "abfnrtvx".toList inside)
  have itself : escapedChar c = c := by
    unfold escapedChar
    split <;> simp_all
  rw [readEscape_of_char _ undigit, itself]
  rintro rfl
  contradiction

/-! ### What spellings resolve to -/

/-- The written text resolves to the other one, behind the bytes of any text. -/
def Resolves (written text : Text) : Prop :=
  ∀ front : Text, resolveAfter front.utf8.reverse (Text.pieces readEscape written) = front ++ text

variable {rest text : Text}

theorem unescape_of_resolves {written : Text} (resolves : Resolves written text) :
  unescape written = text
  := resolves []

theorem resolves_nil :
  Resolves [] []
  := by
  intro front
  simp [resolveAfter]

/-- A character that is left as it is stands for itself. -/
theorem Resolves.skip (behind : Resolves rest text) {c : Char} (other : c ≠ '\\') :
  Resolves (c :: rest) (c :: text)
  := by
  intro front
  have resolved : resolveAfter [] (Text.pieces readEscape rest) = text := behind []
  rw [Text.pieces_of_skip (readEscape_of_ne other rest), resolveAfter, List.reverse_reverse,
    Text.ofBytes_utf8, resolved]

/-- An escape of a character stands for it. -/
theorem Resolves.char (behind : Resolves rest text) {c : Char} {spelling : Text}
    (nonempty : spelling ≠ []) (read : readEscape (spelling ++ rest) = some (.char c, rest)) :
  Resolves (spelling ++ rest) (c :: text)
  := by
  intro front
  have resolved : resolveAfter [] (Text.pieces readEscape rest) = text := behind []
  rw [Text.pieces_of_read nonempty read, resolveAfter, List.reverse_reverse, Text.ofBytes_utf8,
    resolved]

/-- Spelled bytes are collected behind those that are pending. -/
theorem resolveAfter_of_spellsByte {bytes : List UInt8} {spellings : List Text}
    (spelled : List.Forall₂ SpellsByte bytes spellings) (pending : List UInt8) (rest : Text) :
  resolveAfter pending (Text.pieces readEscape (spellings.flatten ++ rest))
    = resolveAfter (bytes.reverse ++ pending) (Text.pieces readEscape rest)
  := by
  induction spelled generalizing pending with
  | nil => rfl
  | @cons b spelling bytes spellings first _ ih =>
    have nonempty : spelling ≠ [] := by
      cases first <;> simp
    rw [List.flatten_cons, List.append_assoc,
      Text.pieces_of_read nonempty (readEscape_of_spellsByte first _), resolveAfter, ih]
    simp

/-- The bytes of a character stand for it. -/
theorem Resolves.bytes (behind : Resolves rest text) {c : Char} {spellings : List Text}
    (spelled : List.Forall₂ SpellsByte (String.utf8EncodeChar c) spellings) :
  Resolves (spellings.flatten ++ rest) (c :: text)
  := by
  intro front
  -- The bytes of the character join those that are pending.
  have joined : (String.utf8EncodeChar c).reverse ++ front.utf8.reverse
      = (Text.utf8 (front ++ [c])).reverse := by
    simp [Text.utf8]
  rw [resolveAfter_of_spellsByte spelled, joined, behind (front ++ [c])]
  simp

/-- Any spelling of a character stands for it. -/
theorem Resolves.spelled (behind : Resolves rest text) {c : Char} {spelling : Text}
    (spells : Spells c spelling) :
  Resolves (spelling ++ rest) (c :: text)
  := by
  cases spells with
  | plain other => apply behind.skip other
  | escaped other =>
    apply behind.char (List.cons_ne_nil _ _)
    apply readEscape_of_escaped other
  | letter denotes =>
    apply behind.char (List.cons_ne_nil _ _)
    apply readEscape_of_letter denotes
  | bytes spelled => apply behind.bytes spelled

/-- However the characters of a text are spelled, what is written resolves to the text. -/
theorem resolves_of_spells {spellings : List Text} (spelled : List.Forall₂ Spells text spellings) :
  Resolves spellings.flatten text
  := by
  induction spelled with
  | nil => apply resolves_nil
  | cons first _ ih => apply ih.spelled first

/-- However the characters of a text are spelled, each in a way of its own, resolving the escapes
of what is written gives the text back. -/
theorem unescape_spelled {spellings : List Text} (spelled : List.Forall₂ Spells text spellings) :
  unescape spellings.flatten = text
  := unescape_of_resolves (resolves_of_spells spelled)

/-- Bytes of one character in both notations in front of those of another one and of a digit, a
backslash in front of what looks like a byte, a letter, and a digit that is not octal. -/
theorem unescape_spelled_of_mixed :
  let text := "éA7\\x41\n8".toList
  let spellings := [["\\303".toList, "\\xa9".toList].flatten, ["\\101".toList].flatten, ['7'],
    ['\\', '\\'], ['x'], ['4'], ['1'], ['\\', 'n'], ['\\', '8']]
  List.Forall₂ Spells text spellings ∧ unescape spellings.flatten = text
  := by
  intro text spellings
  have accented : List.Forall₂ SpellsByte (String.utf8EncodeChar 'é')
      ["\\303".toList, "\\xa9".toList] := by
    have form : String.utf8EncodeChar 'é' = [0xC3, 0xA9] := by decide
    rw [form]
    exact .cons (.octal (by decide) (by decide) (by decide))
      (.cons (.hex (by decide) (by decide)) .nil)
  have capital : List.Forall₂ SpellsByte (String.utf8EncodeChar 'A') ["\\101".toList] := by
    have form : String.utf8EncodeChar 'A' = [0x41] := by decide
    rw [form]
    exact .cons (.octal (by decide) (by decide) (by decide)) .nil
  have spelled : List.Forall₂ Spells text spellings :=
    .cons (.bytes accented) <| .cons (.bytes capital) <| .cons (.plain (by decide)) <|
    .cons (.escaped (by decide)) <| .cons (.plain (by decide)) <| .cons (.plain (by decide)) <|
    .cons (.plain (by decide)) <| .cons (.letter (by decide)) <| .cons (.escaped (by decide)) .nil
  exact ⟨spelled, unescape_spelled spelled⟩

end Shortcode
