import Mathlib.Tactic.Common
import Shortcode.Proofs.Text.Spelled
import Shortcode.Text.Spaces

/-!
# Masked texts

Some characters have a meaning of their own in a tag: the backslash, the double quote, the
brackets, and the fillers, which are normalized away.  A text is masked by writing each of these
as the bytes of its UTF-8 form, byte by byte as an escape.  A masked text is free of them, up to
the backslashes of the escapes (`mem_mask`), and since it spells the characters of the text one
by one (`spells_maskChar`), resolving its escapes gives the text back (`unescape_mask`).
-/

namespace Shortcode

/-- The characters that are masked. -/
def isMasked (c : Char) : Bool := c == '\\' || c == '"' || c == '[' || c == ']' || isFiller c

/-- A choice of the hexadecimal digits, of either case. -/
structure Digits where
  digit : Nat → Char
  worth : ∀ n, n < 16 → hexValue? (digit n) = some n

namespace Digits

/-- The digits with letters in lower case. -/
def lowerCase : Digits where
  digit := Nat.digitChar
  worth := by decide

/-- The digits with letters in upper case. -/
def upperCase : Digits where
  digit n := (Nat.digitChar n).toUpper
  worth := by decide

variable (digits : Digits)

/-- A byte as an escape. -/
def escape (b : UInt8) : Text :=
  ['\\', 'x', digits.digit (b.toNat / 16), digits.digit (b.toNat % 16)]

/-- A character as it is masked. -/
def maskChar (c : Char) : Text :=
  if isMasked c then (String.utf8EncodeChar c).flatMap digits.escape else [c]

/-- A text with the characters that have a meaning of their own masked. -/
def mask (text : Text) : Text := text.flatMap digits.maskChar

end Digits

/-! ### What masked texts are free of -/

theorem eq_of_isFiller {c : Char} (filler : isFiller c) :
  c = Char.ofNat 0xA0 ∨ c = Char.ofNat 0x200B
  := by
  simp only [isFiller, Bool.or_eq_true, beq_iff_eq] at filler
  rcases filler with number | number
  · left
    rw [← number, Char.ofNat_toNat]
  · right
    rw [← number, Char.ofNat_toNat]

/-- No hexadecimal digit is masked. -/
theorem isMasked_eq_false_of_hexValue? {c : Char} {n : Nat} (digit : hexValue? c = some n) :
  isMasked c = false
  := by
  rw [Bool.eq_false_iff]
  intro masked
  have none : hexValue? c = none := by
    simp only [isMasked, Bool.or_eq_true, beq_iff_eq] at masked
    rcases masked with (((rfl | rfl) | rfl) | rfl) | filler
    · decide
    · decide
    · decide
    · decide
    · rcases eq_of_isFiller filler with rfl | rfl
      · decide
      · decide
  rw [none] at digit
  contradiction

namespace Digits

variable (digits : Digits)

theorem mem_escape {b : UInt8} {c : Char} (inside : c ∈ digits.escape b) :
  c = '\\' ∨ isMasked c = false
  := by
  have small := b.toNat_lt
  rw [escape] at inside
  simp only [List.mem_cons, List.not_mem_nil, or_false] at inside
  rcases inside with rfl | rfl | rfl | rfl
  · exact .inl rfl
  · exact .inr (by decide)
  · exact .inr (isMasked_eq_false_of_hexValue? (digits.worth _ (by omega)))
  · exact .inr (isMasked_eq_false_of_hexValue? (digits.worth _ (by omega)))

/-- A masked text contains none of the masked characters but backslashes. -/
theorem mem_mask {text : Text} {c : Char} (inside : c ∈ digits.mask text) :
  c = '\\' ∨ isMasked c = false
  := by
  obtain ⟨d, -, inside⟩ := List.mem_flatMap.mp inside
  unfold maskChar at inside
  split at inside
  · obtain ⟨b, -, inside⟩ := List.mem_flatMap.mp inside
    apply mem_escape digits inside
  · rename_i unmasked
    obtain rfl := List.mem_singleton.mp inside
    exact .inr (Bool.eq_false_iff.mpr unmasked)

/-- Apart from backslashes, no character that is masked stands in a masked text. -/
theorem not_mem_mask {c : Char} (masked : isMasked c) (other : c ≠ '\\') (text : Text) :
  c ∉ digits.mask text
  := by
  intro inside
  rcases digits.mem_mask inside with same | unmasked
  · contradiction
  · rw [masked] at unmasked
    contradiction

theorem isFiller_of_mem_mask {text : Text} {c : Char} (inside : c ∈ digits.mask text) :
  isFiller c = false
  := by
  rcases digits.mem_mask inside with rfl | unmasked
  · decide
  · simp only [isMasked, Bool.or_eq_false_iff] at unmasked
    apply unmasked.2

/-! ### What the escapes resolve to -/

theorem spellsByte_escape (b : UInt8) :
  SpellsByte b (digits.escape b)
  := by
  have small := b.toNat_lt
  apply SpellsByte.hex
  · apply hexValue?_eq_some_iff.mp (digits.worth _ (by omega))
  · apply hexValue?_eq_some_iff.mp (digits.worth _ (by omega))

/-- Masking is one of the ways to spell a character. -/
theorem spells_maskChar (c : Char) :
  Spells c (digits.maskChar c)
  := by
  rw [maskChar]
  split
  · apply Spells.bytes
    apply List.forall₂_map_right_iff.mpr
    apply List.forall₂_same.mpr
    intro b _
    apply digits.spellsByte_escape
  · apply Spells.plain
    rintro rfl
    contradiction

/-- Resolving the escapes of a masked text gives the text back. -/
theorem unescape_mask (text : Text) :
  unescape (digits.mask text) = text
  := by
  apply unescape_of_resolves
  apply resolves_of_spells
  apply List.forall₂_map_right_iff.mpr
  apply List.forall₂_same.mpr
  intro c _
  apply digits.spells_maskChar

/-- Only the empty text is masked as nothing. -/
theorem mask_ne_nil {text : Text} (nonempty : text ≠ []) :
  digits.mask text ≠ []
  := by
  intro nothing
  have resolved := digits.unescape_mask text
  rw [nothing] at resolved
  exact nonempty resolved.symm

end Digits

end Shortcode
