/-!
# Sets of characters

A set of characters is kept as the code points at which membership changes, in ascending order: a
character belongs to the set when an odd number of these borders lie at or below it.
-/
namespace Chip8.Text

/-- A set of characters, by the code points where it begins and ends. -/
structure CharSet where
  borders : Array Nat
  deriving DecidableEq, Repr

/-- Whether `c` belongs to the set. -/
def CharSet.contains (s : CharSet) (c : Char) : Bool :=
  s.borders.foldl (fun inside b => if b ≤ c.toNat then !inside else inside) false

end Chip8.Text
