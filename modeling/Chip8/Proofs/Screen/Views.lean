import Chip8.Proofs.Screen.Sprites
import Chip8.Proofs.Text.Lines

/-!
# Views of the screen

A screen is drawn on and cleared, and it is looked at point by point, row by row, as a number of lit
points and as a text.  The rows are the cells cut into pieces of one length, and joined they are all
cells again, so the lit points may be counted in either.  A text with one character for the lit
points and another one for the rest shows every cell, and the screen is read from it.
-/
namespace Chip8.Screen

/-- What a screen is asked to do; corners and rows may be any integers. -/
inductive Action where
  | draw (x y : Int) (rows : List Int)
  | clear
  deriving DecidableEq, Repr

/-- The screen after one action. -/
def performed (s : Screen) : Action → Screen
  | .draw x y rows => (s.draw x y rows).1
  | .clear => .blank

/-- The screen after several actions. -/
def performAll (s : Screen) (actions : List Action) : Screen := actions.foldl performed s

/-! ## Rows -/

section Rows
variable (s : Screen)

/-- The points of row `r`. -/
def row (r : Nat) : List Bool := (List.range width).map fun (c : Nat) => s.lit c r

theorem rows_eq : s.rows = (List.range height).map s.row := rfl

@[simp] theorem length_row (r : Nat) : (s.row r).length = width := by simp [row]

@[simp] theorem length_rows : s.rows.length = height := by simp [rows_eq]

theorem length_of_mem_rows (points : List Bool) (member : points ∈ s.rows) :
    points.length = width := by
  rw [rows_eq, List.mem_map] at member
  obtain ⟨r, _, rfl⟩ := member
  exact s.length_row r

/-- A point stands in the row and the column that its coordinates wrap around to. -/
theorem point_rows (x y : Int) :
    s.rows[(y % 32).toNat]?.bind (·[(x % 64).toNat]?) = some (s.lit x y) := by
  have below : (y % 32).toNat < height := by
    simp only [height]
    omega
  have inside : (x % 64).toNat < width := by
    simp only [width]
    omega
  have same : s.lit (x % 64).toNat (y % 32).toNat = s.lit x y := by
    refine s.lit_congr ((cell_eq_iff _ _ _ _).mpr ?_)
    omega
  simp only [rows_eq, row, List.getElem?_map, List.getElem?_range below,
    List.getElem?_range inside, Option.map_some, Option.bind_some, same]

/-- A row is a stretch of the cells. -/
theorem row_eq_take (r : Nat) (below : r < height) :
    s.row r = (s.cells.toList.drop (r * width)).take width := by
  have room : r * width + width ≤ height * width := by
    rw [← Nat.succ_mul]
    exact Nat.mul_le_mul_right _ below
  apply List.ext_getElem
  · simp only [length_row, List.length_take, List.length_drop, Vector.length_toList]
    simp only [width, height] at *
    omega
  · intro c inside _
    rw [length_row] at inside
    have place : (cell c r).val = r * width + c := by
      simp only [cell, width, height] at *
      omega
    simp [row, lit, place]

/-- Pieces of one length, cut one behind the other, are what they are cut from. -/
theorem flatten_pieces {α : Type} (xs : List α) (length count : Nat) :
    ((List.range count).map fun i => (xs.drop (i * length)).take length).flatten =
      xs.take (count * length) := by
  induction count with
  | zero => simp
  | succ count ih =>
    rw [Nat.succ_mul, List.take_add, ← ih, List.range_succ, List.map_append, List.flatten_append]
    simp

/-- The rows together are all cells in their order. -/
theorem flatten_rows : s.rows.flatten = s.cells.toList := by
  have pieces : s.rows =
      (List.range height).map fun r => (s.cells.toList.drop (r * width)).take width := by
    rw [rows_eq]
    apply List.map_congr_left
    intro r member
    exact s.row_eq_take r (List.mem_range.mp member)
  have all : s.cells.toList.length = height * width := by
    rw [Vector.length_toList, Nat.mul_comm]
  rw [pieces, flatten_pieces, ← all, List.take_length]

theorem count_rows : s.rows.flatten.count true = s.litCount := by
  rw [flatten_rows, litCount, List.count]
  exact List.countP_congr fun p _ => by simp

end Rows

/-! ## Text -/

section Text
variable (s : Screen) (on off : Char)

/-- The character that stands for a point. -/
def mark (p : Bool) : Char := if p then on else off

/-- The text of a screen in which two characters stand for points. -/
def picture : String := Text.unlines (s.text (String.singleton on) (String.singleton off))

/-- The character of a text at a column of a line. -/
def character? (text : String) (c r : Nat) : Option Char :=
  (Text.lines text)[r]?.bind (·.toList[c]?)

/-- The points that a text shows, where `on` stands for those that are lit. -/
def shown (text : String) : List Bool :=
  (Text.lines text).flatMap fun line => line.toList.map fun c => decide (c = on)

/-- A line has a character for each point of its row. -/
theorem join_marks (points : List Bool) :
    String.join (points.map fun p => if p then String.singleton on else String.singleton off) =
      String.ofList (points.map (mark on off)) := by
  rw [← String.toList_inj, String.toList_join, String.toList_ofList]
  induction points with
  | nil => rfl
  | cons p rest ih =>
    rw [List.map_cons, List.flatMap_cons, ih]
    cases p <;> simp [mark]

variable {on off}

theorem lines_picture (onWhole : on ≠ '\n') (offWhole : off ≠ '\n') :
    Text.lines (s.picture on off) =
      s.rows.map fun points => String.ofList (points.map (mark on off)) := by
  rw [picture, text]
  simp only [join_marks]
  rw [Text.lines_unlines, if_neg]
  · simp [rows_eq, height]
  · intro line member
    obtain ⟨points, _, rfl⟩ := List.mem_map.mp member
    apply Text.unbroken_ofList
    rw [List.mem_map]
    rintro ⟨p, _, broken⟩
    cases p with
    | false => exact offWhole broken
    | true => exact onWhole broken

theorem character?_picture (onWhole : on ≠ '\n') (offWhole : off ≠ '\n') (c r : Nat)
    (inside : c < width) (below : r < height) :
    character? (s.picture on off) c r = some (mark on off (s.lit c r)) := by
  simp only [character?, s.lines_picture onWhole offWhole, rows_eq, row, List.getElem?_map,
    List.getElem?_range below, Option.map_some, Option.bind_some, String.toList_ofList,
    List.getElem?_range inside]

/-- The points that the text of a screen shows are its cells. -/
theorem shown_picture (distinct : on ≠ off) (onWhole : on ≠ '\n') (offWhole : off ≠ '\n') :
    shown on (s.picture on off) = s.cells.toList := by
  have read : ∀ p, decide (mark on off p = on) = p := by
    intro p
    cases p with
    | false => simpa [mark] using distinct.symm
    | true => simp [mark]
  have line : ∀ points : List Bool, (String.ofList (points.map (mark on off))).toList.map
      (fun c => decide (c = on)) = points := by
    intro points
    simp [Function.comp_def, read]
  rw [shown, s.lines_picture onWhole offWhole, List.flatMap_map, ← flatten_rows]
  simp only [line, List.flatMap_id']

end Text

end Chip8.Screen
