import Chip8.Proofs.Numeral.Rounding
import Chip8.Timers

/-!
# Taking ticks out of a sum

Ticks are taken out of a sum one at a time, and every difference is rounded.  Differences of small
sums are exact, so that a division does the same.  Up to `2⁶³` each tick makes the sum less; above,
neighbours are more than two ticks apart, a tick is lost in rounding, and the ticks never run out.
-/
namespace Chip8.Timers
open Binary64

/-- Taking ticks out of a sum one at a time, until less than one is left: the number of ticks and
the rest. -/
inductive Drains : Nat → Nat → Nat → Prop where
  | done (sum : Nat) (below : sum < tickUnits) : Drains sum 0 sum
  | tick (sum ticks rest : Nat) (reached : tickUnits ≤ sum)
    (later : Drains (roundUnits (sum - tickUnits) 1) ticks rest) : Drains sum (ticks + 1) rest

/-- The greatest sum whose ticks run out. -/
def greatestSum : Nat := 2 ^ 63 * unitsPerOne

/-! One tick less. -/

section Tick
variable {sum e : Nat}

theorem tickUnits_pos : 0 < tickUnits := by
  obtain ⟨e, unit⟩ := unitsPerOne_pow
  have positive := Nat.two_pow_pos e
  rw [tickUnits, unit]
  omega

/-- A difference of small sums is a double-precision number. -/
theorem representable_tick (representable : Representable sum) (small : sum < exactBelow)
    (reached : tickUnits ≤ sum) : Representable (sum - tickUnits) := by
  obtain ⟨e, unit⟩ := unitsPerOne_pow
  have bound : sum < 2 ^ (56 + e) := by
    rw [Nat.pow_add, ← unit]
    exact small
  have positive := tickUnits_pos
  have bits : sum.log2 < 56 + e := (Nat.log2_lt (by omega)).mpr bound
  have tick : tickUnits = 2 ^ (3 + e) * 125 := by
    rw [tickUnits, unit, Nat.pow_add]
    omega
  refine representable_of_dvd (sum.log2 - 52) (Nat.dvd_sub representable ?_) ?_
  · rw [tick]
    exact Nat.dvd_mul_right_of_dvd (Nat.pow_dvd_pow 2 (by omega)) 125
  · have upper : sum < 2 ^ (sum.log2 + 1) := Nat.lt_log2_self
    have more : 2 ^ (sum.log2 + 1) ≤ 2 ^ (53 + (sum.log2 - 52)) :=
      Nat.pow_le_pow_right (by decide) (by omega)
    omega

/-- Up to the greatest sum a tick is not lost. -/
theorem roundUnits_tick_lt (reached : tickUnits ≤ sum) (bounded : sum ≤ greatestSum) :
    roundUnits (sum - tickUnits) 1 < sum := by
  obtain ⟨e, unit⟩ := unitsPerOne_pow
  have positive := Nat.two_pow_pos e
  have tick : tickUnits = 1000 * 2 ^ e := by rw [tickUnits, unit]
  have step : spacing (sum - tickUnits) ≤ 1024 * 2 ^ e := by
    have bound : sum - tickUnits < 2 ^ (63 + e) := by
      rw [greatestSum, unit, ← Nat.pow_add] at bounded
      omega
    have power : 1024 * 2 ^ e = 2 ^ (10 + e) := (Nat.pow_add 2 10 e).symm
    rw [power, spacing_eq]
    apply Nat.pow_le_pow_right (by decide)
    by_cases zero : sum - tickUnits = 0
    · simp [zero]
    · have bits := (Nat.log2_lt zero).mpr bound
      omega
  have close := roundUnits_close (sum - tickUnits)
  omega

/-- Above the greatest sum the next double-precision number is more than two ticks away. -/
theorem representable_above (representable : Representable sum) (above : greatestSum < sum) :
    ∃ e, unitsPerOne = 2 ^ e ∧ 2 ^ (11 + e) ∣ sum ∧ 2 ^ (63 + e) + 2 ^ (11 + e) ≤ sum := by
  obtain ⟨e, unit⟩ := unitsPerOne_pow
  rw [greatestSum, unit, ← Nat.pow_add] at above
  have positive := Nat.two_pow_pos (63 + e)
  have bits : 63 + e ≤ sum.log2 := (Nat.le_log2 (by omega)).mpr above.le
  have multiple : 2 ^ (11 + e) ∣ sum :=
    Nat.dvd_trans (Nat.pow_dvd_pow 2 (by omega)) representable
  have less : 2 ^ (11 + e) ∣ sum - 2 ^ (63 + e) :=
    Nat.dvd_sub multiple (Nat.pow_dvd_pow 2 (by omega))
  have least := Nat.le_of_dvd (by omega) less
  exact ⟨e, unit, multiple, by omega⟩

/-- There a tick is lost in rounding. -/
theorem le_roundUnits_tick (representable : Representable sum) (above : greatestSum < sum) :
    sum ≤ roundUnits (sum - tickUnits) 1 := by
  obtain ⟨e, unit, _, least⟩ := representable_above representable above
  have positive := Nat.two_pow_pos e
  have start := Nat.two_pow_pos (63 + e)
  have tick : tickUnits = 1000 * 2 ^ e := by rw [tickUnits, unit]
  have power : 2 ^ (11 + e) = 2048 * 2 ^ e := Nat.pow_add 2 11 e
  have nonzero : sum - tickUnits ≠ 0 := by omega
  have bits : 63 + e ≤ (sum - tickUnits).log2 := (Nat.le_log2 nonzero).mpr (by omega)
  have step : 2048 * 2 ^ e ≤ spacing (sum - tickUnits) := by
    rw [← power, spacing_eq]
    exact Nat.pow_le_pow_right (by decide) (by omega)
  have multiple : spacing (sum - tickUnits) ∣ sum := by
    refine Nat.dvd_trans (Nat.pow_dvd_pow 2 (Nat.sub_le_sub_right ?_ 52)) representable
    have lower := Nat.log2_self_le nonzero
    exact (Nat.le_log2 (by omega)).mpr (by omega)
  exact le_roundUnits multiple (by omega)

end Tick

/-! Whole sums. -/

/-- There is one way of taking the ticks out of a sum. -/
theorem Drains.unique {sum ticks rest ticks' rest' : Nat} (first : Drains sum ticks rest)
    (second : Drains sum ticks' rest') : ticks = ticks' ∧ rest = rest' := by
  induction first generalizing ticks' with
  | done sum below =>
    cases second with
    | done => exact ⟨rfl, rfl⟩
    | tick _ _ _ reached _ => omega
  | tick sum ticks rest reached later ih =>
    cases second with
    | done _ below => omega
    | tick _ ticks' _ _ later' =>
      obtain ⟨same, rests⟩ := ih later'
      exact ⟨congrArg (· + 1) same, rests⟩

/-- The ticks of a sum that is too great never run out. -/
theorem Drains.bounded {sum ticks rest : Nat} (drains : Drains sum ticks rest)
    (representable : Representable sum) : sum ≤ greatestSum := by
  induction drains with
  | done sum below =>
    refine below.le.trans ?_
    rw [tickUnits, greatestSum]
    exact Nat.mul_le_mul_right _ (by decide)
  | tick sum ticks rest reached later ih =>
    by_contra above
    have lost := le_roundUnits_tick representable (Nat.lt_of_not_le above)
    have next := ih (representable_roundUnits _)
    omega

/-- Where differences are exact, ticks are taken out as by a division. -/
theorem drains_division (sum : Nat) (representable : Representable sum) (small : sum < exactBelow) :
    Drains sum (sum / tickUnits) (sum % tickUnits) := by
  induction sum using Nat.strongRecOn with
  | ind sum ih =>
    have positive := tickUnits_pos
    by_cases below : sum < tickUnits
    · rw [Nat.div_eq_of_lt below, Nat.mod_eq_of_lt below]
      exact .done sum below
    · have reached := Nat.le_of_not_lt below
      have exact_tick := representable_tick representable small reached
      have later := ih (sum - tickUnits) (by omega) exact_tick (by omega)
      rw [Nat.div_eq_sub_div positive reached, Nat.mod_eq_sub_mod reached]
      refine .tick sum _ _ reached ?_
      rw [exact_tick.roundUnits]
      exact later

theorem tickUnits_le_exactBelow : tickUnits ≤ exactBelow := by
  rw [tickUnits, exactBelow]
  exact Nat.mul_le_mul_right _ (by decide)

theorem drain_small (sum : Nat) (small : sum < exactBelow) :
    drain sum = some (sum / tickUnits, sum % tickUnits) := by
  rw [drain, if_pos small]

theorem drain_tick (sum : Nat) (large : ¬ sum < exactBelow)
    (less : roundUnits (sum - tickUnits) 1 < sum) :
    drain sum = (drain (roundUnits (sum - tickUnits) 1)).map fun (ticks, rest) =>
      (ticks + 1, rest) := by
  rw [drain, if_neg large]
  exact if_pos less

theorem drain_lost (sum : Nat) (large : ¬ sum < exactBelow)
    (lost : ¬ roundUnits (sum - tickUnits) 1 < sum) : drain sum = none := by
  rw [drain, if_neg large]
  exact if_neg lost

/-- The ticks that a sum is drained of are taken out of it one at a time. -/
theorem drain_drains (sum ticks rest : Nat) (representable : Representable sum)
    (drained : drain sum = some (ticks, rest)) : Drains sum ticks rest := by
  induction sum using drain.induct generalizing ticks rest with
  | case1 sum small =>
    rw [drain_small sum small] at drained
    cases drained
    exact drains_division sum representable small
  | case2 sum large next less ih =>
    rw [drain_tick sum large less, Option.map_eq_some_iff] at drained
    obtain ⟨⟨before, left⟩, later, same⟩ := drained
    cases same
    have reached := tickUnits_le_exactBelow.trans (Nat.le_of_not_lt large)
    exact .tick sum before rest reached (ih before rest (representable_roundUnits _) later)
  | case3 sum large next lost =>
    rw [drain_lost sum large lost] at drained
    cases drained

/-- A sum that is not too great is drained. -/
theorem drain_some (sum : Nat) (bounded : sum ≤ greatestSum) :
    ∃ ticks rest, drain sum = some (ticks, rest) := by
  induction sum using drain.induct with
  | case1 sum small => exact ⟨_, _, drain_small sum small⟩
  | case2 sum large next less ih =>
    obtain ⟨ticks, rest, later⟩ := ih (less.le.trans bounded)
    exact ⟨ticks + 1, rest, (drain_tick sum large less).trans (congrArg _ later)⟩
  | case3 sum large next lost =>
    have reached := tickUnits_le_exactBelow.trans (Nat.le_of_not_lt large)
    exact absurd (roundUnits_tick_lt reached bounded) lost

/-- Draining a sum is taking ticks out of it one at a time. -/
theorem drain_iff (sum ticks rest : Nat) (representable : Representable sum) :
    drain sum = some (ticks, rest) ↔ Drains sum ticks rest := by
  refine ⟨drain_drains sum ticks rest representable, fun drains => ?_⟩
  obtain ⟨ticks', rest', drained⟩ := drain_some sum (drains.bounded representable)
  obtain ⟨rfl, rfl⟩ := drains.unique (drain_drains sum ticks' rest' representable drained)
  exact drained

/-- There is no answer exactly for the sums that are too great. -/
theorem drain_none_iff (sum : Nat) (representable : Representable sum) :
    drain sum = none ↔ greatestSum < sum := by
  constructor
  · intro none
    by_contra bounded
    obtain ⟨_, _, drained⟩ := drain_some sum (Nat.le_of_not_lt bounded)
    rw [none] at drained
    cases drained
  · intro above
    cases drained : drain sum with
    | none => rfl
    | some left =>
      have bounded := (drain_drains sum _ _ representable drained).bounded representable
      omega

theorem Drains.rest_lt {sum ticks rest : Nat} (drains : Drains sum ticks rest) :
    rest < tickUnits := by
  induction drains with
  | done sum below => exact below
  | tick _ _ _ _ _ ih => exact ih

end Chip8.Timers
