/-!
# Split text

Dividing a text at the first place where a mark stands.
-/
namespace Chip8.Text

/-- The texts before and after the first `mark`, if there is one. -/
def splitFirst? (mark : Char) (s : String) : Option (String × String) :=
  let cs := s.toList
  if cs.contains mark then
    some (String.ofList (cs.takeWhile (· ≠ mark)),
      String.ofList ((cs.dropWhile (· ≠ mark)).drop 1))
  else none

end Chip8.Text
