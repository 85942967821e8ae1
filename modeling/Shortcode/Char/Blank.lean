import Shortcode.Char.Blocks

/-!
# Blank characters

The characters that separate attributes and that no name may contain: the spaces and line
ends of the character database and the four information separators.
-/

namespace Shortcode

/-- The blocks of blank characters. -/
def blankBlocks : Blocks where
  toList :=
    [(0x9, 0xD), (0x1C, 0x20), (0x85, 0x85), (0xA0, 0xA0), (0x1680, 0x1680), (0x2000, 0x200A),
     (0x2028, 0x2029), (0x202F, 0x202F), (0x205F, 0x205F), (0x3000, 0x3000)]
  inOrder := by decide

/-- `c` is blank. -/
def isBlank (c : Char) : Bool := blankBlocks.contains c.toNat

end Shortcode
