import Chip8.Text.CharSet

/-!
# Blank characters

The characters that are cut off both ends of a text: spaces, line ends, tabulators and the four
information separators.
-/
namespace Chip8.Text

/-- Every blank character. -/
def blank : CharSet where
  borders := #[
    0x9, 0xE, 0x1C, 0x21, 0x85, 0x86, 0xA0, 0xA1, 0x1680, 0x1681, 0x2000, 0x200B, 0x2028,
    0x202A, 0x202F, 0x2030, 0x205F, 0x2060, 0x3000, 0x3001]

end Chip8.Text
