import Chip8.Screen

/-!
# Sprites

Flipping points one after the other flips each cell as often as they name it.  A sprite of at most
thirty-two rows names no cell twice, so each of its bits decides about one cell alone, and the
points that it puts out are those that were lit before.
-/
namespace Chip8.Screen

theorem cell_eq_iff (x y px py : Int) :
    cell x y = cell px py ↔ x % 64 = px % 64 ∧ y % 32 = py % 32 := by
  simp only [cell, width, height, Fin.mk.injEq]
  omega

/-- A point is lit if and only if its cell is. -/
theorem lit_congr (s : Screen) {x y px py : Int} (same : cell x y = cell px py) :
    s.lit x y = s.lit px py := by
  simp only [lit, same]

theorem lit_flip (s : Screen) (x y px py : Int) :
    (s.flip x y).lit px py = (s.lit px py ^^ decide (cell x y = cell px py)) := by
  simp only [lit, flip, Fin.getElem_fin, Vector.getElem_set, Fin.ext_iff]
  split
  · next same =>
    simp [same]
  · next other =>
    simp [other]

/-! ## Any points -/

/-- How often some points name the cell of a point. -/
def timesNamed (points : List (Int × Int)) (px py : Int) : Nat :=
  points.countP fun p => cell p.1 p.2 = cell px py

/-- A cell is flipped as often as it is named. -/
theorem lit_flipAll (s : Screen) (hit : Bool) (points : List (Int × Int)) (px py : Int) :
    (s.flipAll hit points).1.lit px py =
      (s.lit px py ^^ decide (timesNamed points px py % 2 = 1)) := by
  induction points generalizing s hit with
  | nil => simp [flipAll, timesNamed]
  | cons p rest ih =>
    have counted : timesNamed (p :: rest) px py =
        timesNamed rest px py + if cell p.1 p.2 = cell px py then 1 else 0 := by
      simp only [timesNamed, List.countP_cons, decide_eq_true_eq]
    rw [flipAll, ih, lit_flip, counted]
    rcases Nat.mod_two_eq_zero_or_one (timesNamed rest px py) with even | odd
    · by_cases same : cell p.1 p.2 = cell px py <;> simp [same, even, Nat.add_mod]
    · by_cases same : cell p.1 p.2 = cell px py <;> simp [same, odd, Nat.add_mod]

/-! ## Points that are apart -/

/-- Whether no two of some points name the same cell. -/
def Apart (points : List (Int × Int)) : Prop :=
  points.Pairwise fun p q => cell p.1 p.2 ≠ cell q.1 q.2

/-- Whether one of some points names the cell of a point. -/
def Named (points : List (Int × Int)) (px py : Int) : Prop :=
  ∃ p ∈ points, cell p.1 p.2 = cell px py

theorem timesNamed_of_apart {points : List (Int × Int)} (apart : Apart points) (px py : Int) :
    timesNamed points px py % 2 = 1 ↔ Named points px py := by
  have once : timesNamed points px py ≤ 1 := by
    unfold timesNamed
    induction points with
    | nil => exact Nat.zero_le 1
    | cons p rest ih =>
      obtain ⟨other, apart⟩ := List.pairwise_cons.mp apart
      rw [List.countP_cons]
      split
      · next same =>
        have none : rest.countP (fun q => cell q.1 q.2 = cell px py) = 0 := by
          rw [List.countP_eq_zero]
          intro q member again
          rw [decide_eq_true_eq] at same again
          exact other q member (same.trans again.symm)
        omega
      · exact ih apart
  have named : 0 < timesNamed points px py ↔ Named points px py := by
    simp only [timesNamed, List.countP_pos_iff, decide_eq_true_eq, Named]
  rw [← named]
  omega

/-- Whether points that are apart meet a lit one is told from the screen before them. -/
theorem flipAll_hit (s : Screen) (hit : Bool) (points : List (Int × Int)) (apart : Apart points) :
    (s.flipAll hit points).2 = (hit || points.any fun p => s.lit p.1 p.2) := by
  induction points generalizing s hit with
  | nil => simp [flipAll]
  | cons p rest ih =>
    obtain ⟨other, apart⟩ := List.pairwise_cons.mp apart
    have untouched : (rest.any fun q => (s.flip p.1 p.2).lit q.1 q.2) =
        rest.any fun q => s.lit q.1 q.2 := by
      rw [Bool.eq_iff_iff, List.any_eq_true, List.any_eq_true]
      refine exists_congr fun q => and_congr_right fun member => ?_
      rw [lit_flip, decide_eq_false (other q member), Bool.xor_false]
    rw [flipAll, ih _ _ apart, untouched, List.any_cons, Bool.or_assoc]

/-! ## The points of a sprite -/

/-- The bit of a row at a column, of which the leftmost is bit seven. -/
def rowBit (row : Int) (column : Nat) : Bool := row / (Nat.pow 2 (7 - column) : Nat) % 2 = 1

theorem rowBit_byte (b : UInt8) (column : Nat) :
    rowBit b.toNat column = b.toNat.testBit (7 - column) := by
  rw [rowBit, Nat.testBit_eq_decide_div_mod_eq, decide_eq_decide]
  have power : Nat.pow 2 (7 - column) = 2 ^ (7 - column) := rfl
  rw [power]
  omega

theorem mem_rowPoints (x y row : Int) (p : Int × Int) :
    p ∈ rowPoints x y row ↔ ∃ c < 8, rowBit row c ∧ p = (x + (c : Nat), y) := by
  simp only [rowPoints, List.mem_filterMap, List.mem_range, Option.ite_none_right_eq_some,
    Option.some_inj, rowBit, decide_eq_true_eq]
  refine exists_congr fun c => and_congr_right fun _ => and_congr_right fun _ => eq_comm

theorem mem_spritePoints (x y : Int) (rows : List Int) (p : Int × Int) :
    p ∈ spritePoints x y rows ↔
      ∃ (r : Nat) (row : Int), rows[r]? = some row ∧ ∃ c < 8, rowBit row c ∧
        p = (x + (c : Nat), y + r) := by
  induction rows generalizing y with
  | nil => simp [spritePoints]
  | cons row rest ih =>
    rw [spritePoints, List.mem_append, mem_rowPoints, ih]
    constructor
    · rintro (⟨c, small, set, rfl⟩ | ⟨r, other, found, c, small, set, rfl⟩)
      · exact ⟨0, row, rfl, c, small, set, by simp⟩
      · refine ⟨r + 1, other, found, c, small, set, ?_⟩
        rw [Int.natCast_add, Int.natCast_one, Int.add_assoc, Int.add_comm 1]
    · rintro ⟨_ | r, other, found, c, small, set, rfl⟩
      · cases found
        exact .inl ⟨c, small, set, by simp⟩
      · refine .inr ⟨r, other, found, c, small, set, ?_⟩
        rw [Int.natCast_add, Int.natCast_one, Int.add_assoc, Int.add_comm 1]

/-- The bits of one row are as many columns wide as there are, and these are fewer than the screen
has. -/
theorem apart_rowPoints (x y row : Int) : Apart (rowPoints x y row) := by
  unfold Apart rowPoints
  rw [List.pairwise_filterMap]
  refine List.Pairwise.imp_of_mem ?_ List.pairwise_lt_range
  intro a b first second less p atA q atB
  rw [List.mem_range] at first second
  rw [Option.ite_none_right_eq_some, Option.some_inj] at atA atB
  rw [← atA.2, ← atB.2, Ne, cell_eq_iff]
  omega

/-- A sprite with no more rows than the screen names no cell twice. -/
theorem apart_spritePoints (x y : Int) (rows : List Int) (few : rows.length ≤ 32) :
    Apart (spritePoints x y rows) := by
  induction rows generalizing y with
  | nil => exact .nil
  | cons row rest ih =>
    rw [List.length_cons] at few
    refine List.pairwise_append.mpr ⟨apart_rowPoints x y row, ih (y + 1) (by omega), ?_⟩
    intro p inRow q below
    obtain ⟨c, small, _, rfl⟩ := (mem_rowPoints x y row p).mp inRow
    obtain ⟨r, other, found, d, _, _, rfl⟩ := (mem_spritePoints x (y + 1) rest q).mp below
    obtain ⟨within, _⟩ := List.getElem?_eq_some_iff.mp found
    rw [Ne, cell_eq_iff]
    omega

section Draw
variable (s : Screen) (x y : Int) (rows : List Int)

/-- A cell is flipped if the sprite names it. -/
theorem lit_draw (few : rows.length ≤ 32) (px py : Int) (b : Bool)
    (named : Named (spritePoints x y rows) px py ↔ b = true) :
    (s.draw x y rows).1.lit px py = (s.lit px py ^^ b) := by
  have odd := timesNamed_of_apart (apart_spritePoints x y rows few) px py
  have flipped : decide (timesNamed (spritePoints x y rows) px py % 2 = 1) = b := by
    rw [Bool.eq_iff_iff, decide_eq_true_eq, odd, named]
  rw [draw, lit_flipAll, flipped]

/-- Each bit of the sprite decides about its own cell. -/
theorem draw_bit (few : rows.length ≤ 32) {r c : Nat} {row : Int} (found : rows[r]? = some row)
    (small : c < 8) :
    (s.draw x y rows).1.lit (x + c) (y + r) = (s.lit (x + c) (y + r) ^^ rowBit row c) := by
  have within := (List.getElem?_eq_some_iff.mp found).1
  refine s.lit_draw x y rows few _ _ _ ⟨?_, fun set => ?_⟩
  · rintro ⟨p, member, same⟩
    obtain ⟨r', row', found', c', small', set, rfl⟩ := (mem_spritePoints x y rows p).mp member
    have within' := (List.getElem?_eq_some_iff.mp found').1
    rw [cell_eq_iff] at same
    obtain rfl : r' = r := by omega
    obtain rfl : c' = c := by omega
    rw [found] at found'
    cases found'
    exact set
  · exact ⟨_, (mem_spritePoints x y rows _).mpr ⟨r, row, found, c, small, set, rfl⟩, rfl⟩

/-- No other cell changes. -/
theorem draw_other (few : rows.length ≤ 32) (px py : Int)
    (other : ∀ r < rows.length, ∀ c < 8, cell (x + (c : Nat)) (y + (r : Nat)) ≠ cell px py) :
    (s.draw x y rows).1.lit px py = s.lit px py := by
  rw [s.lit_draw x y rows few px py false, Bool.xor_false]
  refine ⟨?_, nofun⟩
  rintro ⟨p, member, same⟩
  obtain ⟨r, row, found, c, small, _, rfl⟩ := (mem_spritePoints x y rows p).mp member
  exact absurd same (other r (List.getElem?_eq_some_iff.mp found).1 c small)

/-- A sprite collides exactly when it puts a point out. -/
theorem draw_hit_iff (few : rows.length ≤ 32) :
    (s.draw x y rows).2 = true ↔
      ∃ px py, s.lit px py = true ∧ (s.draw x y rows).1.lit px py = false := by
  have hit : (s.draw x y rows).2 = (spritePoints x y rows).any fun p => s.lit p.1 p.2 :=
    flipAll_hit s false _ (apart_spritePoints x y rows few)
  rw [hit, List.any_eq_true]
  constructor
  · rintro ⟨p, member, lit⟩
    refine ⟨p.1, p.2, lit, ?_⟩
    rw [s.lit_draw x y rows few p.1 p.2 true (iff_of_true ⟨p, member, rfl⟩ rfl), lit]
    rfl
  · rintro ⟨px, py, lit, out⟩
    by_cases named : Named (spritePoints x y rows) px py
    · obtain ⟨p, member, same⟩ := named
      exact ⟨p, member, (s.lit_congr same).trans lit⟩
    · rw [s.lit_draw x y rows few px py false (iff_of_false named nofun), lit] at out
      cases out

end Draw

end Chip8.Screen
