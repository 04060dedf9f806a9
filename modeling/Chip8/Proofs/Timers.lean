import Chip8.Timers

/-!
# Timers without time

Timers that have nothing pending and are given no time count no tick.
-/
namespace Chip8.Timers

theorem power_pos (n : Nat) : 0 < Nat.pow 2 n := Nat.two_pow_pos n

theorem exactBelow_pos : 0 < exactBelow := by
  unfold exactBelow Binary64.unitsPerOne
  apply Nat.mul_pos <;> apply power_pos

theorem drain_zero : drain 0 = some (0, 0) := by
  unfold drain
  rw [if_pos exactBelow_pos, Nat.zero_div, Nat.zero_mod]

/-- The reading of a step for which a host gives no time. -/
def noTime : Reading := .number (.real .zero)

/-- No time is accepted when none is pending, and then it counts no tick. -/
theorem update_noTime (t : Timers) (rest : t.pendingUnits = 0) :
    t.update noTime = .ok (t.countDown 0 0, 0) := by
  have rounded : Binary64.roundUnits 0 1 = 0 := Binary64.roundUnits_of_lt (by decide)
  have finite : ¬ Binary64.overflow ≤ 0 := by
    unfold Binary64.overflow
    apply Nat.not_le.mpr
    apply power_pos
  have given : noTime.units? = .ok (some 0) := by
    rw [← rounded]
    rfl
  unfold update
  rw [given]
  simp only [rest, Option.getD_some, rounded, if_neg finite, drain_zero]

end Chip8.Timers
