/-!
# Columns of text

A field is filled with blanks to a least width and is never cut; a text is a list of lines.
-/
namespace Chip8.Text

/-- `n` blanks. -/
def blanks (n : Nat) : String := String.ofList (List.replicate n ' ')

/-- `s` followed by blanks up to `width` characters. -/
def padRight (width : Nat) (s : String) : String := s ++ blanks (width - s.length)

/-- `s` preceded by blanks up to `width` characters. -/
def padLeft (width : Nat) (s : String) : String := blanks (width - s.length) ++ s

/-- One text, with a line break between two lines. -/
def unlines (lines : List String) : String := "\n".intercalate lines

/-- The lines of a text: a line break ends a line and starts the next, so there is always one. -/
def lines (s : String) : List String := (s.toList.splitOn '\n').map String.ofList

end Chip8.Text
