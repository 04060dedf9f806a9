import Chip8.Proofs.Bare.Image
import Chip8.Proofs.Screen.Views

/-!
# The screen on bare integers

The screen once more, as a list of integers, row after row, which nothing keeps at `0` or `1` or at
its length.  A pixel is looked up by its number and may be missing; the rows are cut out of the
list, the lit pixels are counted by adding all of them up, and the text has one character for
numbers other than `0`.  These four views go different ways to the same list.  They agree because
drawing keeps the list the image of a typed screen.
-/
namespace Chip8.Bare.Pixels

/-- The pixels of a new screen. -/
def fresh : List Int := List.replicate (Screen.width * Screen.height) 0

/-- The number of a pixel. -/
def position (x y : Int) : Int := y % 32 * 64 + x % 64

def pixel (xs : List Int) (x y : Int) : Except Slip Int := item xs (position x y)

/-- Flips one pixel, and tells whether it was lit. -/
def flip (xs : List Int) (x y : Int) : Except Slip (List Int × Bool) := do
  let p ← pixel xs x y
  let after ← put xs (position x y) (if p % 2 = 0 then p + 1 else p - 1)
  return (after, p ≠ 0)

/-- Flips pixels in turn, and tells whether one of them was lit. -/
def flipAll (xs : List Int) (hit : Bool) : List (Int × Int) → Except Slip (List Int × Bool)
  | [] => return (xs, hit)
  | (x, y) :: rest => do
    let (after, lit) ← flip xs x y
    flipAll after (hit || lit) rest

def draw (xs : List Int) (x y : Int) (rows : List Int) : Except Slip (List Int × Bool) :=
  flipAll xs false (Screen.spritePoints x y rows)

def clear (xs : List Int) : List Int := splice xs 0 xs.length (List.replicate xs.length 0)

/-- The pixels after one action. -/
def performed (xs : List Int) : Screen.Action → Except Slip (List Int)
  | .draw x y rows => (draw xs x y rows).map Prod.fst
  | .clear => .ok (clear xs)

/-- The pixels after several actions, unless one of them fails. -/
def performAll (xs : List Int) (actions : List Screen.Action) : Except Slip (List Int) :=
  actions.foldlM performed xs

/-- The rows of the screen. -/
def snapshot (xs : List Int) : List (List Int) :=
  (List.range 32).map fun (r : Nat) => Sequence.between xs (r * 64) ((r + 1) * 64)

/-- The number of lit pixels. -/
def litCount (xs : List Int) : Int := xs.foldl (· + ·) 0

/-- The screen as a text. -/
def text (xs : List Int) (on off : String) : String :=
  Text.unlines ((snapshot xs).map fun row =>
    String.join (row.map fun p => if p ≠ 0 then on else off))

/-! ## What it means that views agree -/

/-- The pixel of a cell. -/
def value (lit : Bool) : Int := if lit then 1 else 0

/-- The views of some pixels are those of a screen. -/
structure Shows (xs : List Int) (s : Screen) : Prop where
  pixel : ∀ x y, pixel xs x y = .ok (value (s.lit x y))
  rows : snapshot xs = s.rows.map fun points => points.map value
  count : litCount xs = s.litCount
  text : ∀ on off, text xs on off = Text.unlines (s.text on off)

/-- Points, rows and number of the lit ones are told alike. -/
structure Agrees (xs : List Int) : Prop where
  height : (snapshot xs).length = 32
  width : ∀ row ∈ snapshot xs, row.length = 64
  point : ∀ x y, ∃ p, pixel xs x y = .ok p ∧ (p = 0 ∨ p = 1) ∧
    (snapshot xs)[(y % 32).toNat]?.bind (·[(x % 64).toNat]?) = some p
  count : litCount xs = (snapshot xs).flatten.count 1

/-- A text has a line for each row and in it a character for each pixel. -/
structure Pictures (on off : Char) (xs : List Int) (text : String) : Prop where
  height : (Text.lines text).length = 32
  width : ∀ line ∈ Text.lines text, line.length = 64
  lit : ∀ c < 64, ∀ r < 32, Screen.character? text c r = some on ↔ pixel xs c r = .ok 1
  dark : ∀ c < 64, ∀ r < 32, Screen.character? text c r = some off ↔ pixel xs c r = .ok 0

/-! ## The cells of a screen as pixels -/

section Image
variable (s : Screen)

/-- The numbers of the cells of a screen. -/
def image (s : Screen) : List Int := s.cells.toList.map value

theorem length_image : (image s).length = 64 * 32 := by
  rw [image, List.length_map, Vector.length_toList]
  rfl

theorem position_eq (x y : Int) : position x y = ((Screen.cell x y).val : Int) := by
  simp only [position, Screen.cell, Screen.width, Screen.height]
  omega

theorem pixel_image (x y : Int) : pixel (image s) x y = .ok (value (s.lit x y)) := by
  have inside : (Screen.cell x y).val < s.cells.toList.length := by simp
  rw [pixel, position_eq, image, item_map _ _ _ inside, Vector.getElem_toList]
  rfl

theorem flip_image (x y : Int) :
    flip (image s) x y = .ok (image (s.flip x y), s.lit x y) := by
  have inside : (Screen.cell x y).val < s.cells.toList.length := by simp
  have turned : (if value (s.lit x y) % 2 = 0 then value (s.lit x y) + 1
      else value (s.lit x y) - 1) = value (!s.lit x y) := turned_pixel (s.lit x y)
  have told : decide (value (s.lit x y) ≠ 0) = s.lit x y := lit_pixel (s.lit x y)
  have stored : put (image s) (position x y) (value (!s.lit x y)) = .ok (image (s.flip x y)) := by
    rw [position_eq, image, image, Screen.flip, Vector.toList_set]
    exact put_map value _ _ (!s.lit x y) inside (by cases s.lit x y <;> decide)
  simp only [flip, pixel_image, bind, Except.bind, turned, stored, told]
  rfl

theorem flipAll_image (hit : Bool) (points : List (Int × Int)) :
    flipAll (image s) hit points =
      .ok (image (s.flipAll hit points).1, (s.flipAll hit points).2) := by
  induction points generalizing s hit with
  | nil => rfl
  | cons p rest ih =>
    rw [flipAll, flip_image, Screen.flipAll]
    exact ih (s.flip p.1 p.2) (hit || s.lit p.1 p.2)

/-- A sprite is drawn on the image as on the screen, and collides with the same. -/
theorem draw_image (x y : Int) (rows : List Int) :
    draw (image s) x y rows = .ok (image (s.draw x y rows).1, (s.draw x y rows).2) :=
  flipAll_image s false _

theorem image_blank : image .blank = fresh := by
  rw [image, Screen.blank, Vector.toList_replicate, List.map_replicate]
  rfl

theorem clear_image : clear (image s) = image .blank := by
  have size : (image s).length = Screen.width * Screen.height := length_image s
  have all : splice (image s) 0 (image s).length fresh = fresh := splice_all _ _
  rw [clear, size, ← fresh, ← size, all, image_blank]

theorem performed_image (a : Screen.Action) :
    performed (image s) a = .ok (image (s.performed a)) := by
  cases a with
  | draw x y rows =>
    rw [performed, draw_image]
    rfl
  | clear => rw [performed, clear_image, Screen.performed]

/-- Actions on the image of a screen never fail, and leave the image of what the screen becomes. -/
theorem performAll_image (actions : List Screen.Action) :
    performAll (image s) actions = .ok (image (s.performAll actions)) := by
  induction actions generalizing s with
  | nil => rfl
  | cons a rest ih =>
    rw [performAll, List.foldlM_cons, performed_image]
    exact ih (s.performed a)

/-! ## The views of an image -/

theorem between_image (r : Nat) (below : r < 32) :
    Sequence.between (image s) (r * 64) ((r + 1) * 64) = (s.row r).map value := by
  have first : Sequence.border (image s).length (r * 64) = r * 64 :=
    Sequence.border_natCast _ (r * 64) (by rw [length_image]; omega)
  have last : Sequence.border (image s).length ((r + 1) * 64) = r * 64 + 64 := by
    have stop : ((r : Int) + 1) * 64 = (r * 64 + 64 : Nat) := by omega
    rw [stop]
    exact Sequence.border_natCast _ _ (by rw [length_image]; omega)
  rw [s.row_eq_take r below, Sequence.between, first, last, image, List.drop_take,
    Nat.add_sub_cancel_left, List.map_take, List.map_drop]
  rfl

theorem snapshot_image : snapshot (image s) = s.rows.map fun points => points.map value := by
  rw [snapshot, Screen.rows_eq, List.map_map]
  apply List.map_congr_left
  intro r member
  exact between_image s r (List.mem_range.mp member)

/-- Adding up pixels counts those that are lit. -/
theorem foldl_value (start : Int) (cells : List Bool) :
    (cells.map value).foldl (· + ·) start = start + cells.countP id := by
  induction cells generalizing start with
  | nil => simp
  | cons lit rest ih =>
    rw [List.map_cons, List.foldl_cons, ih, List.countP_cons]
    cases lit <;> simp [value, Int.add_comm, Int.add_left_comm]

theorem litCount_image : litCount (image s) = s.litCount := by
  rw [litCount, image, foldl_value, Int.zero_add, Screen.litCount]

theorem count_value (cells : List Bool) : (cells.map value).count 1 = cells.count true := by
  rw [List.count, List.count, List.countP_map]
  apply List.countP_congr
  intro lit _
  cases lit <;> decide

theorem text_image (on off : String) :
    text (image s) on off = Text.unlines (s.text on off) := by
  have point : ∀ lit, (if value lit ≠ 0 then on else off) = if lit then on else off := by
    intro lit
    cases lit <;> rfl
  rw [text, snapshot_image, Screen.text, List.map_map]
  simp only [Function.comp_def, List.map_map, point]

theorem shows_image : Shows (image s) s where
  pixel := pixel_image s
  rows := snapshot_image s
  count := litCount_image s
  text := text_image s

end Image

/-! ## The views of pixels that show a screen -/

section Shows
variable {xs : List Int} {s : Screen}

theorem Shows.agrees (shows : Shows xs s) : Agrees xs where
  height := by
    rw [shows.rows, List.length_map, Screen.length_rows]
    rfl
  width row member := by
    rw [shows.rows] at member
    obtain ⟨points, listed, rfl⟩ := List.mem_map.mp member
    rw [List.length_map, s.length_of_mem_rows points listed]
    rfl
  point x y := by
    refine ⟨value (s.lit x y), shows.pixel x y, ?_, ?_⟩
    · cases s.lit x y <;> decide
    · have found := s.point_rows x y
      obtain ⟨points, row, point⟩ := Option.bind_eq_some_iff.mp found
      rw [shows.rows, List.getElem?_map, row, Option.map_some, Option.bind_some,
        List.getElem?_map, point, Option.map_some]
  count := by
    rw [shows.count, shows.rows, ← List.map_flatten, count_value, Screen.count_rows]

theorem Shows.pictures (shows : Shows xs s) {on off : Char} (distinct : on ≠ off)
    (onWhole : on ≠ '\n') (offWhole : off ≠ '\n') :
    Pictures on off xs (s.picture on off) := by
  have lines := s.lines_picture onWhole offWhole
  have shown := s.character?_picture onWhole offWhole
  constructor
  · rw [lines, List.length_map, Screen.length_rows]
    rfl
  · intro line member
    rw [lines] at member
    obtain ⟨points, listed, rfl⟩ := List.mem_map.mp member
    rw [String.length_ofList, List.length_map, s.length_of_mem_rows points listed]
    rfl
  · intro c inside r below
    rw [shown c r inside below, shows.pixel]
    cases s.lit c r <;> simp [Screen.mark, value, distinct.symm]
  · intro c inside r below
    rw [shown c r inside below, shows.pixel]
    cases s.lit c r <;> simp [Screen.mark, value, distinct]

end Shows

/-- All views of the screen agree, whatever is drawn on it and however often it is cleared, and no
action fails.  A point is `0` or `1`, and it is the one in the row and the column that its
coordinates wrap around to.  There are thirty-two rows of sixty-four points, and the lit points are
as many as the rows have ones.  A text in which one character stands for lit points and another for
the rest shows each point in its place, so that no other pixels have the same text. -/
theorem views_agree (actions : List Screen.Action) (on off : Char) (distinct : on ≠ off)
    (onWhole : on ≠ '\n') (offWhole : off ≠ '\n') :
    ∃ xs, performAll fresh actions = .ok xs ∧
      Shows xs (Screen.blank.performAll actions) ∧
      Agrees xs ∧
      Pictures on off xs (text xs (String.singleton on) (String.singleton off)) ∧
      ∀ others ys, performAll fresh others = .ok ys →
        text ys (String.singleton on) (String.singleton off) =
          text xs (String.singleton on) (String.singleton off) → ys = xs := by
  have reached : ∀ actions,
      performAll fresh actions = .ok (image (Screen.blank.performAll actions)) := by
    intro actions
    rw [← image_blank, performAll_image]
  have shows := shows_image (Screen.blank.performAll actions)
  refine ⟨_, reached actions, shows, shows.agrees, ?_, ?_⟩
  · rw [shows.text]
    exact shows.pictures distinct onWhole offWhole
  · intro others ys drawn same
    rw [reached, Except.ok.injEq] at drawn
    subst drawn
    rw [text_image, text_image] at same
    -- The cells are read from the text, so they are the same as well.
    have cells := (Screen.blank.performAll others).shown_picture distinct onWhole offWhole
    rw [Screen.picture, same, ← Screen.picture,
      Screen.shown_picture _ distinct onWhole offWhole] at cells
    rw [image, image, cells]

/-- What was drawn before the screen was cleared is gone, and a bit that wraps around two borders
is the first character of the last line. -/
theorem views_agree_corner :
    ('#' ≠ '.' ∧ '#' ≠ '\n' ∧ '.' ≠ '\n') ∧
    ∃ xs, performAll fresh [.draw 0 31 [0xFF], .clear, .draw 60 (-1) [0x08, 0x80]] = .ok xs ∧
      pixel xs 64 (-1) = .ok 1 ∧ litCount xs = 2 ∧
      Screen.character? (text xs "#" ".") 0 31 = some '#' ∧
      Screen.character? (text xs "#" ".") 1 31 = some '.' := by
  refine ⟨by decide, ?_⟩
  obtain ⟨xs, drawn, shows, _, pictures, _⟩ :=
    views_agree [.draw 0 31 [0xFF], .clear, .draw 60 (-1) [0x08, 0x80]] '#' '.' (by decide)
      (by decide) (by decide)
  generalize screen : Screen.blank.performAll _ = s at shows
  have corner : s.lit 0 31 = true := by
    rw [← screen]
    decide +kernel
  have beside : s.lit 1 31 = false := by
    rw [← screen]
    decide +kernel
  have count : s.litCount = 2 := by
    rw [← screen]
    decide +kernel
  refine ⟨xs, drawn, ?_, ?_, ?_, ?_⟩
  · rw [shows.pixel, s.lit_congr ((Screen.cell_eq_iff 64 (-1) 0 31).mpr (by decide)), corner]
    rfl
  · rw [shows.count, count]
    rfl
  · refine (pictures.lit 0 (by decide) 31 (by decide)).mpr ?_
    have point := shows.pixel 0 31
    rwa [corner] at point
  · refine (pictures.dark 1 (by decide) 31 (by decide)).mpr ?_
    have point := shows.pixel 1 31
    rwa [beside] at point

end Chip8.Bare.Pixels
