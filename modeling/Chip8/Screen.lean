/-!
# Screen

The screen has thirty-two rows of sixty-four points and is closed in both directions: a point may
have any integer coordinates.  Drawing a sprite flips the points that its set bits name, in order;
it collides when a point that was lit is put out.
-/
namespace Chip8

namespace Screen

def width : Nat := 64
def height : Nat := 32

end Screen

/-- The points of the screen, row after row. -/
structure Screen where
  cells : Vector Bool (Screen.width * Screen.height)
  deriving DecidableEq, Repr

namespace Screen

/-- The screen with no point lit. -/
def blank : Screen := ⟨Vector.replicate _ false⟩

/-- The cell of a point. -/
def cell (x y : Int) : Fin (width * height) :=
  ⟨(y % height).toNat * width + (x % width).toNat, by
    have hx : 0 ≤ x % 64 ∧ x % 64 < 64 := by omega
    have hy : 0 ≤ y % 32 ∧ y % 32 < 32 := by omega
    simp only [width, height] at *
    omega⟩

/-- Whether a point is lit. -/
def lit (s : Screen) (x y : Int) : Bool := s.cells[cell x y]

/-- The screen with one point flipped. -/
def flip (s : Screen) (x y : Int) : Screen :=
  ⟨s.cells.set (cell x y) (!s.cells[cell x y])⟩

/-- The points that one row of a sprite names; its leftmost point is bit seven. -/
def rowPoints (x y row : Int) : List (Int × Int) :=
  (List.range 8).filterMap fun (c : Nat) =>
    if row / (Nat.pow 2 (7 - c) : Nat) % 2 = 1 then some (x + c, y) else none

/-- The points that a sprite names, whose upper left corner is at `x`, `y`. -/
def spritePoints (x y : Int) : List Int → List (Int × Int)
  | [] => []
  | row :: rest => rowPoints x y row ++ spritePoints x (y + 1) rest

/-- Flips points in turn and tells whether one of them was lit. -/
def flipAll (s : Screen) (hit : Bool) : List (Int × Int) → Screen × Bool
  | [] => (s, hit)
  | (x, y) :: rest =>
    let hit := hit || s.lit x y
    flipAll (s.flip x y) hit rest

/-- Draws a sprite and tells whether it collided. -/
def draw (s : Screen) (x y : Int) (rows : List Int) : Screen × Bool :=
  s.flipAll false (spritePoints x y rows)

/-- The rows of the screen. -/
def rows (s : Screen) : List (List Bool) :=
  (List.range height).map fun (y : Nat) => (List.range width).map fun (x : Nat) => s.lit x y

/-- The number of lit points. -/
def litCount (s : Screen) : Nat := s.cells.toList.countP id

/-- The rows as text. -/
def text (s : Screen) (on off : String) : List String :=
  s.rows.map fun row => String.join (row.map fun p => if p then on else off)

end Screen
end Chip8
