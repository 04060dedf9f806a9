import Chip8.Numeral.Binary64
import Mathlib.Tactic.Ring

/-!
# Rounding to double precision

A count of units is rounded to a multiple of the distance between neighbours around it.  Rounding
does not cross such multiples, and a multiple itself stays; where it crosses a power of two is told
from half the distance below and above that power.
-/
namespace Chip8.Binary64

/-! The integer nearest to a quotient. -/

section Nearest
variable {m num den : Nat}

/-- The nearest integer is above `m` when the quotient is above `m` and a half, or is `m` and a half
and `m` is odd. -/
theorem lt_nearest_iff (positive : 0 < den) :
    m < nearest num den ↔
      (2 * m + 1) * den < 2 * num ∨ ((2 * m + 1) * den = 2 * num ∧ m % 2 = 1) := by
  have split := Nat.div_add_mod num den
  have rest := Nat.mod_lt num positive
  have middle : (2 * m + 1) * den = 2 * (den * m) + den := by ring
  rcases Nat.lt_trichotomy m (num / den) with below | same | above
  · obtain ⟨d, more⟩ := Nat.exists_eq_add_of_lt below
    have product : den * (num / den) = den * m + den * d + den := by
      rw [more]
      ring
    unfold nearest
    grind
  · rw [← same] at split
    unfold nearest
    grind
  · obtain ⟨d, more⟩ := Nat.exists_eq_add_of_lt above
    have product : den * m = den * (num / den) + den * d + den := by
      rw [more]
      ring
    unfold nearest
    grind

theorem nearest_le (positive : 0 < den) (le : num ≤ m * den) : nearest num den ≤ m := by
  by_contra above
  have middle : (2 * m + 1) * den = 2 * (m * den) + den := by ring
  rcases (lt_nearest_iff positive).mp (Nat.lt_of_not_le above) with more | ⟨same, _⟩ <;> omega

theorem le_nearest (positive : 0 < den) (near : 2 * (m * den) < 2 * num + den) :
    m ≤ nearest num den := by
  cases m with
  | zero => exact Nat.zero_le _
  | succ m =>
    have middle : 2 * ((m + 1) * den) = (2 * m + 1) * den + den := by ring
    exact (lt_nearest_iff positive).mpr (.inl (by omega))

/-- The nearest integer is at most a half above the quotient. -/
theorem nearest_close (num den : Nat) (positive : 0 < den) :
    2 * (nearest num den * den) ≤ 2 * num + den := by
  cases near : nearest num den with
  | zero => simp
  | succ m =>
    have below : m < nearest num den := by omega
    have middle : 2 * ((m + 1) * den) = (2 * m + 1) * den + den := by ring
    rcases (lt_nearest_iff positive).mp below with more | ⟨same, _⟩ <;> omega

end Nearest

/-! Counts that rounding leaves as they are. -/

/-- Whether a count of units is a double-precision number: a multiple of the distance between
neighbours around it. -/
def Representable (n : Nat) : Prop := spacing n ∣ n

theorem spacing_eq (n : Nat) : spacing n = 2 ^ (n.log2 - 52) := rfl

theorem spacing_pos (n : Nat) : 0 < spacing n := Nat.two_pow_pos _

theorem roundUnits_one (n : Nat) : roundUnits n 1 = nearest n (spacing n) * spacing n := by
  simp only [roundUnits, Nat.div_one, Nat.one_mul]

section Neighbours
variable {n y : Nat}

/-- Rounding does not cross a multiple of the distance between neighbours, and comes to it from less
than half the distance. -/
theorem roundUnits_le (multiple : spacing n ∣ y) (le : n ≤ y) : roundUnits n 1 ≤ y := by
  obtain ⟨m, rfl⟩ := multiple
  rw [roundUnits_one, Nat.mul_comm (spacing n) m]
  rw [Nat.mul_comm] at le
  exact Nat.mul_le_mul_right _ (nearest_le (spacing_pos n) le)

theorem le_roundUnits (multiple : spacing n ∣ y) (near : 2 * y < 2 * n + spacing n) :
    y ≤ roundUnits n 1 := by
  obtain ⟨m, rfl⟩ := multiple
  rw [roundUnits_one, Nat.mul_comm (spacing n) m]
  rw [Nat.mul_comm (spacing n) m] at near
  exact Nat.mul_le_mul_right _ (le_nearest (spacing_pos n) near)

theorem Representable.roundUnits (representable : Representable n) : roundUnits n 1 = n :=
  Nat.le_antisymm (roundUnits_le representable (Nat.le_refl n))
    (le_roundUnits representable (Nat.lt_add_of_pos_right (spacing_pos n)))

/-- Rounding adds at most half the distance between neighbours. -/
theorem roundUnits_close (n : Nat) : 2 * Binary64.roundUnits n 1 ≤ 2 * n + spacing n := by
  rw [roundUnits_one]
  exact nearest_close n (spacing n) (spacing_pos n)

/-- A multiple of a power of two with at most fifty-three bits above it is representable. -/
theorem representable_of_dvd (j : Nat) (multiple : 2 ^ j ∣ n) (small : n < 2 ^ (53 + j)) :
    Representable n := by
  by_cases zero : n = 0
  · exact zero ▸ Nat.dvd_zero _
  · have bits : n.log2 < 53 + j := (Nat.log2_lt zero).mpr small
    exact Nat.dvd_trans (Nat.pow_dvd_pow 2 (by omega)) multiple

end Neighbours

/-! Rounding and powers of two. -/

section Powers
variable {n k : Nat}

theorem spacing_dvd_pow (le : n.log2 - 52 ≤ k) : spacing n ∣ 2 ^ k := Nat.pow_dvd_pow 2 le

theorem roundUnits_le_pow (le : n ≤ 2 ^ k) : roundUnits n 1 ≤ 2 ^ k := by
  refine roundUnits_le (spacing_dvd_pow ?_) le
  by_cases zero : n = 0
  · simp [zero]
  · have bits := (Nat.pow_le_pow_iff_right (by decide)).mp ((Nat.log2_self_le zero).trans le)
    omega

theorem pow_le_roundUnits (le : 2 ^ k ≤ n) : 2 ^ k ≤ roundUnits n 1 := by
  have positive := Nat.two_pow_pos k
  have zero : n ≠ 0 := by omega
  -- a power below the distance between neighbours is replaced by that distance
  have bits : 2 ^ max k (n.log2 - 52) ≤ n := by
    rcases Nat.le_total (n.log2 - 52) k with less | more
    · rwa [Nat.max_eq_left less]
    · rw [Nat.max_eq_right more]
      exact (Nat.pow_le_pow_right (by decide) (Nat.sub_le _ _)).trans (Nat.log2_self_le zero)
  exact (Nat.pow_le_pow_right (by decide) (Nat.le_max_left _ _)).trans
    (le_roundUnits (spacing_dvd_pow (Nat.le_max_right _ _)) (by have := spacing_pos n; omega))

/-- What has been rounded is representable. -/
theorem representable_roundUnits (n : Nat) : Representable (roundUnits n 1) := by
  by_cases zero : n = 0
  · subst zero
    exact representable_of_dvd 0 (Nat.one_dvd _) (by decide)
  · have upper := roundUnits_le_pow (Nat.lt_log2_self (n := n)).le
    rcases upper.lt_or_eq with below | power
    · refine representable_of_dvd (n.log2 - 52) ?_ ?_
      · rw [roundUnits_one]
        exact Nat.dvd_mul_left _ _
      · exact below.trans_le (Nat.pow_le_pow_right (by decide) (by omega))
    · rw [power]
      exact representable_of_dvd (n.log2 + 1) (Nat.dvd_refl _)
        (Nat.pow_lt_pow_right (by decide) (by omega))

theorem spacing_of_bits (lower : 2 ^ k ≤ n) (upper : n < 2 ^ (k + 1)) : spacing n = 2 ^ (k - 52) := by
  have positive := Nat.two_pow_pos k
  have bits : n.log2 = k := (Nat.log2_eq_iff (by omega)).mpr ⟨lower, upper⟩
  rw [spacing_eq, bits]

/-- A count is rounded above a power of two when it lies above it by more than half the distance
between the neighbours there. -/
theorem pow_lt_roundUnits_iff (large : 53 ≤ k) :
    2 ^ k < roundUnits n 1 ↔ 2 ^ k + 2 ^ (k - 53) < n := by
  obtain ⟨j, rfl⟩ := Nat.exists_eq_add_of_le large
  have positive := Nat.two_pow_pos j
  have power : 2 ^ (53 + j) = 2 ^ 53 * 2 ^ j := Nat.pow_add 2 53 j
  have double : 2 ^ (53 + j + 1) = 2 * 2 ^ (53 + j) := Nat.pow_succ'
  rw [Nat.add_sub_cancel_left]
  by_cases below : n ≤ 2 ^ (53 + j)
  · have rounded := roundUnits_le_pow below
    omega
  · by_cases above : 2 ^ (53 + j + 1) ≤ n
    · have rounded := pow_le_roundUnits above
      omega
    · have step : spacing n = 2 * 2 ^ j := by
        rw [spacing_of_bits (Nat.le_of_not_le below) (Nat.lt_of_not_le above)]
        have half : 53 + j - 52 = j + 1 := by omega
        rw [half, Nat.pow_succ']
      have units : 2 ^ (53 + j) = 2 ^ 52 * (2 * 2 ^ j) := by omega
      rw [roundUnits_one, step, units, Nat.mul_lt_mul_right (by omega), lt_nearest_iff (by omega)]
      omega

/-- A count is rounded to a power of two or above it when it lies below it by at most half the
distance between the neighbours there. -/
theorem pow_le_roundUnits_iff (large : 54 ≤ k) :
    2 ^ k ≤ roundUnits n 1 ↔ 2 ^ k ≤ n + 2 ^ (k - 54) := by
  obtain ⟨j, rfl⟩ := Nat.exists_eq_add_of_le large
  have positive := Nat.two_pow_pos j
  have power : 2 ^ (54 + j) = 2 ^ 54 * 2 ^ j := Nat.pow_add 2 54 j
  have half : 2 ^ (53 + j) = 2 ^ 53 * 2 ^ j := Nat.pow_add 2 53 j
  rw [Nat.add_sub_cancel_left]
  by_cases above : 2 ^ (54 + j) ≤ n
  · have rounded := pow_le_roundUnits above
    omega
  · by_cases below : n < 2 ^ (53 + j)
    · have rounded := roundUnits_le_pow below.le
      omega
    · have step : spacing n = 2 * 2 ^ j := by
        rw [spacing_of_bits (Nat.le_of_not_lt below) (by omega)]
        have half : 53 + j - 52 = j + 1 := by omega
        rw [half, Nat.pow_succ']
      have units : 2 ^ (54 + j) = (2 ^ 53 - 1 + 1) * (2 * 2 ^ j) := by omega
      rw [roundUnits_one, step, units, Nat.mul_le_mul_right_iff (by omega), Nat.succ_le_iff,
        lt_nearest_iff (by omega)]
      omega

end Powers

/-! Powers of two in units of one.  The number of units in one is a power of two, and its exponent
plays no part. -/

section Units
variable {n k : Nat}

theorem unitsPerOne_pow : ∃ e, unitsPerOne = 2 ^ e := by
  have power : ∀ k, ∃ e, Nat.pow 2 k = 2 ^ e := fun k => ⟨k, rfl⟩
  unfold unitsPerOne
  -- with the exponent as a variable nothing tries to compute the power
  generalize 1074 = k
  exact power k

theorem unitsPerOne_pos : 0 < unitsPerOne := by
  obtain ⟨e, unit⟩ := unitsPerOne_pow
  rw [unit]
  exact Nat.two_pow_pos e

theorem overflow_eq : overflow = 2 ^ 1024 * unitsPerOne := by
  have power : ∀ a b, Nat.pow 2 (a + b) = 2 ^ a * Nat.pow 2 b := fun a b => Nat.pow_add 2 a b
  have exponents : 2098 = 1024 + 1074 := rfl
  unfold overflow unitsPerOne
  rw [exponents]
  generalize 1074 = k
  generalize 1024 = l
  exact power l k

theorem units_lt_roundUnits_iff (large : 53 ≤ k) :
    2 ^ k * unitsPerOne < roundUnits n 1 ↔ (2 ^ k + 2 ^ (k - 53)) * unitsPerOne < n := by
  obtain ⟨e, unit⟩ := unitsPerOne_pow
  have exponent : k + e - 53 = k - 53 + e := by omega
  rw [unit, Nat.add_mul, ← Nat.pow_add, ← Nat.pow_add, pow_lt_roundUnits_iff (by omega), exponent]

theorem units_le_roundUnits_iff (large : 54 ≤ k) :
    2 ^ k * unitsPerOne ≤ roundUnits (unitsPerOne * n) 1 ↔ 2 ^ k ≤ n + 2 ^ (k - 54) := by
  obtain ⟨e, unit⟩ := unitsPerOne_pow
  have exponent : k + e - 54 = k - 54 + e := by omega
  rw [unit, Nat.mul_comm (2 ^ e) n, ← Nat.pow_add, pow_le_roundUnits_iff (by omega), exponent,
    Nat.pow_add, Nat.pow_add, ← Nat.add_mul, Nat.mul_le_mul_right_iff (Nat.two_pow_pos e)]

/-- A whole number is rounded to infinity when it lies below the least infinite count by at most half
the distance between the neighbours there. -/
theorem overflow_le_roundUnits_iff :
    overflow ≤ roundUnits (unitsPerOne * n) 1 ↔ 2 ^ 1024 ≤ n + 2 ^ 970 := by
  have infinite : 2 ^ 1024 * unitsPerOne ≤ roundUnits (unitsPerOne * n) 1 ↔
      2 ^ 1024 ≤ n + 2 ^ (1024 - 54) := units_le_roundUnits_iff (by decide)
  simpa only [overflow_eq, Nat.reduceSub] using infinite

theorem ofInt?_eq_none_iff (n : Int) : ofInt? n = none ↔ 2 ^ 1024 ≤ n.natAbs + 2 ^ 970 := by
  rw [← overflow_le_roundUnits_iff]
  unfold ofInt?
  dsimp only
  split
  · next large => exact ⟨fun _ => large, fun _ => rfl⟩
  · next small => exact ⟨nofun, fun large => absurd large small⟩

end Units

end Chip8.Binary64
