import Chip8.Proofs.Screen.Sprites
import Mathlib.Algebra.BigOperators.Group.Finset.Piecewise
import Mathlib.Algebra.BigOperators.Group.Finset.Sigma
import Mathlib.Data.Int.Bitwise
import Mathlib.Data.Nat.Count

/-!
# Sprites of any height

A sprite with more rows than the screen comes back to cells that it has flipped before, so that a
point may be put out although it was dark when the drawing began, and one that was lit may be lit at
the end.  What holds of every sprite is said by counting: a cell changes if an odd number of set bits
name it, and every flip makes the number of lit points greater by one or, when it puts a point out,
less by one.
-/
namespace Chip8.Screen

/-! ## The set bits of a sprite -/

/-- The set bits of a sprite, each by its row and its column. -/
def spriteBits (rows : List Int) : Finset (Nat × Nat) :=
  (Finset.range rows.length ×ˢ Finset.range 8).filter fun b =>
    (rows.getD b.1 0).testBit (7 - b.2) = true

/-- The set bits that name the cell of a point, when the upper left corner is at `x`, `y`. -/
def bitsNaming (x y : Int) (rows : List Int) (px py : Int) : Finset (Nat × Nat) :=
  (spriteBits rows).filter fun b =>
    (x + b.2) % 64 = px % 64 ∧ (y + b.1) % 32 = py % 32

/-- A row may be any integer; its bits are those of its two's complement. -/
theorem rowBit_eq_testBit (row : Int) (column : Nat) :
    rowBit row column = row.testBit (7 - column) := by
  have power : Nat.pow 2 (7 - column) = 2 ^ (7 - column) := rfl
  cases row with
  | ofNat n =>
    have natural : Int.ofNat n / ((2 ^ (7 - column) : Nat) : Int) =
        ((n / 2 ^ (7 - column) : Nat) : Int) := rfl
    rw [rowBit, power, Int.testBit, Nat.testBit_eq_decide_div_mod_eq, decide_eq_decide, natural]
    omega
  | negSucc n =>
    have floor : Int.negSucc n / ((2 ^ (7 - column) : Nat) : Int) =
        -(((n / 2 ^ (7 - column) : Nat) : Int) + 1) :=
      Int.negSucc_ediv n (Int.natCast_pos.mpr (Nat.two_pow_pos _))
    rw [rowBit, power, Int.testBit, Nat.testBit_eq_decide_div_mod_eq, floor, ← decide_not,
      decide_eq_decide]
    omega

theorem countP_rowPoints (x y row : Int) (p : Int × Int → Bool) :
    (rowPoints x y row).countP p =
      ((Finset.range 8).filter fun c =>
        row.testBit (7 - c) = true ∧ p (x + (c : Nat), y) = true).card := by
  rw [← Nat.count_eq_card_filter_range, Nat.count, rowPoints, List.countP_filterMap]
  refine List.countP_congr fun c _ => ?_
  rw [← rowBit_eq_testBit, rowBit]
  by_cases set : row / (Nat.pow 2 (7 - c) : Nat) % 2 = 1
  · simp only [if_pos set, Option.map_some, Option.getD_some, decide_eq_true set, true_and,
      decide_eq_true_eq]
  · simp only [if_neg set, Option.map_none, Option.getD_none, decide_eq_false set,
      Bool.false_eq_true, false_and, decide_false]

/-- The points of a sprite are its set bits, each at its place. -/
theorem countP_spritePoints (x y : Int) (rows : List Int) (p : Int × Int → Bool) :
    (spritePoints x y rows).countP p =
      ((spriteBits rows).filter fun b => p (x + (b.2 : Nat), y + (b.1 : Nat)) = true).card := by
  rw [spriteBits, Finset.filter_filter, Finset.card_filter, Finset.sum_product]
  simp only [← Finset.card_filter]
  induction rows generalizing y with
  | nil => rfl
  | cons row rest ih =>
    rw [spritePoints, List.countP_append, ih, countP_rowPoints, List.length_cons,
      Finset.sum_range_succ', Nat.add_comm]
    simp only [List.getD_cons_succ, List.getD_cons_zero, Int.natCast_add, Int.natCast_one,
      Int.natCast_zero, Int.add_zero, Int.add_assoc, Int.add_comm 1]

/-- How often a sprite names a cell. -/
theorem timesNamed_spritePoints (x y : Int) (rows : List Int) (px py : Int) :
    timesNamed (spritePoints x y rows) px py = (bitsNaming x y rows px py).card := by
  simp only [timesNamed, countP_spritePoints, bitsNaming, cell_eq_iff, decide_eq_true_eq]

theorem length_spritePoints (x y : Int) (rows : List Int) :
    (spritePoints x y rows).length = (spriteBits rows).card := by
  rw [← List.countP_true, countP_spritePoints, Finset.filter_true_of_mem fun _ _ => rfl]

/-! ## Lit points -/

/-- Two screens with the same points lit are one. -/
theorem ext_lit {s t : Screen} (same : ∀ px py, s.lit px py = t.lit px py) : s = t := by
  obtain ⟨cells⟩ := s
  obtain ⟨others⟩ := t
  rw [Screen.mk.injEq]
  ext i inside
  have place : cell (i % 64 : Nat) (i / 64 : Nat) = ⟨i, inside⟩ := by
    simp only [cell, width, height, Fin.mk.injEq] at inside ⊢
    omega
  have point := same (i % 64 : Nat) (i / 64 : Nat)
  simp only [lit, place, Fin.getElem_fin] at point
  rw [point]

/-- How many cells are lit on one screen and not on another. -/
def putOut (before after : Screen) : Nat :=
  (Finset.univ.filter fun i : Fin (width * height) =>
    before.cells[i] = true ∧ after.cells[i] = false).card

/-- How many cells go out, one flip after the other, when points are flipped in turn. -/
def putOutInTurn (s : Screen) : List (Int × Int) → Nat
  | [] => 0
  | (x, y) :: rest => putOut s (s.flip x y) + (s.flip x y).putOutInTurn rest

/-- A flip puts out the point that it names, if that is lit, and no other one. -/
theorem putOut_flip (s : Screen) (x y : Int) :
    putOut s (s.flip x y) = if s.lit x y = true then 1 else 0 := by
  have only : ∀ i : Fin (width * height),
      (s.cells[i] = true ∧ (s.flip x y).cells[i] = false) ↔ i = cell x y ∧ s.lit x y = true := by
    intro i
    simp only [flip, lit, Fin.getElem_fin, Vector.getElem_set, Fin.ext_iff]
    split
    · next same => simp [same]
    · next other => simp [Ne.symm other]
  simp only [putOut, only]
  split
  · next set =>
    simp only [set, and_true, Finset.filter_eq', Finset.mem_univ, if_true, Finset.card_singleton]
  · next dark =>
    simp only [dark, Bool.false_eq_true, and_false, Finset.filter_false, Finset.card_empty]

/-- A flip makes the lit points one more, or one less if it puts a point out. -/
theorem litCount_flip (s : Screen) (x y : Int) :
    (s.flip x y).litCount + 2 * putOut s (s.flip x y) = s.litCount + 1 := by
  have inside : (cell x y).val < s.cells.toList.length := by
    rw [Vector.length_toList]
    exact (cell x y).isLt
  have point : s.cells.toList[(cell x y).val] = s.lit x y := Vector.getElem_toList inside
  have others : (s.flip x y).litCount =
      s.litCount - (if s.lit x y = true then 1 else 0) + if s.lit x y = true then 0 else 1 := by
    rw [litCount, flip, ← lit, Vector.toList_set, List.countP_set inside, point, litCount]
    cases s.lit x y <;> rfl
  rw [putOut_flip, others]
  cases set : s.lit x y with
  | false => rfl
  | true =>
    have some : 0 < s.litCount :=
      List.countP_pos_iff.mpr ⟨_, List.getElem_mem inside, point.trans set⟩
    simp only [if_true]
    omega

/-- Flips in turn make the lit points more by one each, apart from those that put a point out. -/
theorem litCount_flipAll (s : Screen) (hit : Bool) (points : List (Int × Int)) :
    (s.flipAll hit points).1.litCount + 2 * s.putOutInTurn points = s.litCount + points.length := by
  induction points generalizing s hit with
  | nil => rfl
  | cons p rest ih =>
    have first := s.litCount_flip p.1 p.2
    have later := ih (s.flip p.1 p.2) (hit || s.lit p.1 p.2)
    rw [flipAll, putOutInTurn, List.length_cons]
    omega

/-- A sprite collides if one of its flips puts a point out. -/
theorem flipAll_hit_iff (s : Screen) (hit : Bool) (points : List (Int × Int)) :
    (s.flipAll hit points).2 = true ↔ hit = true ∨ 0 < s.putOutInTurn points := by
  induction points generalizing s hit with
  | nil => simp [flipAll, putOutInTurn]
  | cons p rest ih =>
    rw [flipAll, ih, putOutInTurn, putOut_flip, Bool.or_eq_true, or_assoc]
    refine or_congr_right ?_
    cases s.lit p.1 p.2 with
    | true =>
      simp only [if_true, true_or, true_iff]
      omega
    | false => simp only [Bool.false_eq_true, if_false, false_or, Nat.zero_add]

/-! ## Any sprite -/

/-- A cell is flipped if an odd number of set bits name it. -/
theorem lit_draw_odd (s : Screen) (x y : Int) (rows : List Int) (px py : Int) :
    (s.draw x y rows).1.lit px py =
      (s.lit px py ^^ decide ((bitsNaming x y rows px py).card % 2 = 1)) := by
  rw [draw, lit_flipAll, timesNamed_spritePoints]

/-- Drawing any sprite flips each point as often as set bits name it, where coordinates wrap around.
The lit points become more by one for each set bit and less by two for each flip that puts a point
out, and the sprite collides exactly when there is such a flip.  So a sprite that is drawn twice
leaves the screen as it was, and two sprites leave the same screen in either order. -/
theorem draw_parity (s : Screen) (x y : Int) (rows : List Int) :
    let after := (s.draw x y rows).1
    (∀ px py, after.lit px py =
      (s.lit px py ^^ decide ((bitsNaming x y rows px py).card % 2 = 1))) ∧
    after.litCount + 2 * s.putOutInTurn (spritePoints x y rows) =
      s.litCount + (spriteBits rows).card ∧
    ((s.draw x y rows).2 = true ↔ after.litCount ≠ s.litCount + (spriteBits rows).card) ∧
    (after.draw x y rows).1 = s ∧
    ∀ u v others, (after.draw u v others).1 = ((s.draw u v others).1.draw x y rows).1 := by
  intro after
  have count : after.litCount + 2 * s.putOutInTurn (spritePoints x y rows) =
      s.litCount + (spriteBits rows).card := by
    rw [← length_spritePoints x y]
    exact s.litCount_flipAll false _
  refine ⟨s.lit_draw_odd x y rows, count, ?_, ?_, ?_⟩
  · have hit := s.flipAll_hit_iff false (spritePoints x y rows)
    rw [draw, hit, Bool.false_eq_true, false_or]
    omega
  · refine ext_lit fun px py => ?_
    rw [lit_draw_odd, lit_draw_odd, Bool.xor_assoc, Bool.xor_self, Bool.xor_false]
  · intro u v others
    refine ext_lit fun px py => ?_
    rw [lit_draw_odd, lit_draw_odd, lit_draw_odd, lit_draw_odd, Bool.xor_assoc, Bool.xor_assoc,
      Bool.xor_comm (decide _)]

/-- The last of thirty-three rows is flipped over the first one. -/
example : bitsNaming 0 0 (List.replicate 33 0x80) 64 (-32) = {(0, 0), (32, 0)} := by decide +kernel

end Chip8.Screen
