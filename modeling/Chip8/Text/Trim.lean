import Chip8.Text.Blank

/-!
# Trimmed text

Cutting characters of one kind off one or both ends.
-/
namespace Chip8.Text

/-- The characters without those of a kind at the end. -/
def trimEnd (p : Char → Bool) (s : List Char) : List Char :=
  (s.reverse.dropWhile p).reverse

/-- The characters without those of a kind at either end. -/
def trimBoth (p : Char → Bool) (s : List Char) : List Char :=
  trimEnd p (s.dropWhile p)

/-- The text without blanks at either end. -/
def strip (s : String) : String :=
  String.ofList (trimBoth blank.contains s.toList)

end Chip8.Text
