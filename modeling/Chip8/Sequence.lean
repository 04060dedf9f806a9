/-!
# Positions in a sequence

A position may be counted from either end: `-1` names the last item.  Naming one item fails when
there is none; cutting out a stretch never fails, because its ends are moved into the sequence.
-/
namespace Chip8.Sequence

/-- The item that `i` names among `n`, counted from the end when `i` is negative. -/
def position? (n : Nat) (i : Int) : Option (Fin n) :=
  let j := if i < 0 then i + n else i
  if h : 0 ≤ j ∧ j < n then some ⟨j.toNat, by omega⟩ else none

/-- The border that `i` names among `n` items, moved to the nearest end when it lies outside. -/
def border (n : Nat) (i : Int) : Nat :=
  if i < 0 then (i + n).toNat else min i.toNat n

/-- The items from border `start` up to border `stop`. -/
def between {α : Type _} (xs : List α) (start stop : Int) : List α :=
  (xs.take (border xs.length stop)).drop (border xs.length start)

theorem border_natCast (n i : Nat) (inside : i ≤ n) : border n i = i := by
  have natural : ¬ ((i : Int) < 0) := by omega
  simp only [border, if_neg natural]
  omega

theorem border_le (n : Nat) (i : Int) : border n i ≤ n := by
  unfold border
  split <;> omega

/-- Up to a natural border stand the first items. -/
theorem between_zero {α : Type _} (xs : List α) (stop : Nat) : between xs 0 stop = xs.take stop := by
  have first : border xs.length 0 = 0 := border_natCast _ 0 (Nat.zero_le _)
  have last : border xs.length stop = min stop xs.length := by
    unfold border
    split <;> omega
  rw [between, first, last, List.drop_zero, ← List.take_eq_take_min]

theorem position?_natCast (n i : Nat) :
    position? n i = if h : i < n then some ⟨i, h⟩ else none := by
  unfold position?
  by_cases h : i < n
  · have : ¬ ((i : Int) < 0) := by omega
    simp [h, this]
  · have : ¬ ((i : Int) < 0) := by omega
    simp [h, this]

end Chip8.Sequence
