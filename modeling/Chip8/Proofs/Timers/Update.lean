import Chip8.Proofs.Timers.Drain

/-!
# Which readings the timers accept

A reading is added to what the timers have pending and drained of its ticks.  A whole number of
milliseconds that has no double-precision counterpart is refused, also when it is negative, and so
is one whose sixtieths have none.  A reading of more than about `1.5 · 10¹⁷` milliseconds never runs
out of ticks.  Every other reading is accepted and leaves less than one tick pending.
-/
namespace Chip8

namespace Reading
open Binary64

/-- Sixty times the milliseconds of a reading, exactly and in units, if it counts as time. -/
def time? : Reading → Option Nat
  | number (.whole n) => if n < 0 then none else some (unitsPerOne * (60 * n.natAbs))
  | flag b => some (unitsPerOne * (60 * if b then 1 else 0))
  | number (.real (.finite negative u)) => if negative && u != 0 then none else some (60 * u)
  | _ => none

/-- Whether a reading is a whole number that is too large for double precision, or whose sixtieths
are if it counts as time. -/
def TooLarge : Reading → Prop
  | number (.whole n) => 2 ^ 1024 ≤ (if n < 0 then n.natAbs else 60 * n.natAbs) + 2 ^ 970
  | _ => False

/-- Whether a reading is so much time that its ticks never run out. -/
def Endless (r : Reading) : Prop :=
  ¬ r.TooLarge ∧ ∃ time, r.time? = some time ∧ (2 ^ 63 + 2 ^ 10) * unitsPerOne < time

theorem wholeUnits_tooLarge (n : Int) (large : (number (.whole n)).TooLarge) :
    wholeUnits n = .error .tooLarge := by
  unfold wholeUnits
  cases given : ofInt? n with
  | none => rfl
  | some x =>
    have fits : ¬ 2 ^ 1024 ≤ n.natAbs + 2 ^ 970 := by
      rw [← ofInt?_eq_none_iff, given]
      nofun
    by_cases negative : n < 0
    · simp only [TooLarge, if_pos negative] at large
      exact absurd large fits
    · simp only [TooLarge, if_neg negative] at large
      have same : n.toNat = n.natAbs := by omega
      have infinite := overflow_le_roundUnits_iff.mpr large
      simp only [if_neg negative, same, if_pos infinite]

theorem wholeUnits_ok (n : Int) (small : ¬ (number (.whole n)).TooLarge) :
    wholeUnits n = .ok ((number (.whole n)).time?.map (roundUnits · 1)) := by
  have bound : ¬ 2 ^ 1024 ≤ n.natAbs + 2 ^ 970 := by
    intro large
    apply small
    rw [TooLarge]
    split
    · exact large
    · exact large.trans (Nat.add_le_add_right (Nat.le_mul_of_pos_left _ (by decide)) _)
  obtain ⟨x, given⟩ := Option.ne_none_iff_exists'.mp (bound ∘ (ofInt?_eq_none_iff n).mp)
  unfold wholeUnits
  rw [given]
  by_cases negative : n < 0
  · simp only [time?, if_pos negative]
    rfl
  · simp only [TooLarge, if_neg negative] at small
    have same : n.toNat = n.natAbs := by omega
    have finite := small ∘ overflow_le_roundUnits_iff.mp
    simp only [time?, if_neg negative, same, if_neg finite]
    rfl

/-- The units of a reading are its time, rounded, unless it is too large. -/
theorem units?_tooLarge (r : Reading) (large : r.TooLarge) : r.units? = .error .tooLarge := by
  unfold TooLarge at large
  split at large
  · next n => exact wholeUnits_tooLarge n large
  · exact large.elim

theorem units?_ok (r : Reading) (small : ¬ r.TooLarge) :
    r.units? = .ok (r.time?.map (roundUnits · 1)) := by
  match r, small with
  | number (.whole n), small => exact wholeUnits_ok n small
  | flag true, _ => exact wholeUnits_ok 1 (by unfold TooLarge; decide +kernel)
  | flag false, _ => exact wholeUnits_ok 0 (by unfold TooLarge; decide +kernel)
  | number (.real (.finite negative u)), _ =>
    rw [units?, time?, Nat.mul_comm u 60]
    split <;> rfl
  | number (.real (.infinite _)), _ | number (.real (.nan _)), _ | text _, _ | missing, _
  | sequence _, _ | table _, _ => rfl

end Reading

namespace Timers
open Binary64

/-- Timers that a host can come to from a reset. -/
inductive Reachable : Timers → Prop where
  | reset : Reachable {}
  | update (t u : Timers) (r : Reading) (ticks : Nat) (before : Reachable t)
    (accepted : t.update r = .ok (u, ticks)) : Reachable u
  | setDelay (t : Timers) (value : Int) (before : Reachable t) : Reachable (t.setDelay value)
  | setSound (t : Timers) (value : Int) (before : Reachable t) : Reachable (t.setSound value)

/-- What the timers drain when they are given a time. -/
def sumWith (t : Timers) (time? : Option Nat) : Nat :=
  roundUnits (t.pendingUnits + (time?.map (roundUnits · 1)).getD 0) 1

section Update
variable (t : Timers) (r : Reading)

theorem greatestSum_lt_iff (n : Nat) :
    greatestSum < roundUnits n 1 ↔ (2 ^ 63 + 2 ^ 10) * unitsPerOne < n :=
  units_lt_roundUnits_iff (by decide)

theorem update_tooLarge (large : r.TooLarge) : t.update r = .error .tooLarge := by
  unfold update
  rw [r.units?_tooLarge large]

/-- A sum that is too great, infinite or not, is not drained. -/
theorem update_endless (small : ¬ r.TooLarge) (above : greatestSum < t.sumWith r.time?) :
    t.update r = .error .endless := by
  have none := (drain_none_iff _ (representable_roundUnits _)).mpr above
  unfold update
  rw [r.units?_ok small]
  simp only [none]
  split <;> rfl

/-- Any other sum is drained of its ticks. -/
theorem update_accepted (small : ¬ r.TooLarge) (bounded : t.sumWith r.time? ≤ greatestSum) :
    ∃ ticks rest, Drains (t.sumWith r.time?) ticks rest ∧
      t.update r = .ok (t.countDown ticks rest, ticks) := by
  obtain ⟨ticks, rest, drained⟩ := drain_some _ bounded
  refine ⟨ticks, rest, (drain_iff _ _ _ (representable_roundUnits _)).mp drained, ?_⟩
  have finite : ¬ overflow ≤ t.sumWith r.time? := by
    have positive := unitsPerOne_pos
    have great : greatestSum < overflow := by
      rw [greatestSum, overflow_eq]
      exact Nat.mul_lt_mul_of_pos_right (by decide +kernel) positive
    omega
  unfold update
  rw [r.units?_ok small]
  unfold sumWith at drained finite
  simp only [if_neg finite, drained]

end Update

/-- Less than a tick that is pending does not decide whether a sum is too great. -/
theorem greatestSum_lt_sumWith_iff (t : Timers) (time? : Option Nat)
    (pending : t.pendingUnits < tickUnits) :
    greatestSum < t.sumWith time? ↔
      ∃ time, time? = some time ∧ (2 ^ 63 + 2 ^ 10) * unitsPerOne < time := by
  have positive := unitsPerOne_pos
  have units : tickUnits = 1000 * unitsPerOne := rfl
  rw [sumWith, greatestSum_lt_iff]
  cases time? with
  | none =>
    simp only [Option.map_none, Option.getD_none]
    constructor
    · intro above
      omega
    · rintro ⟨_, none, _⟩
      cases none
  | some time =>
    simp only [Option.map_some, Option.getD_some, Option.some_inj, exists_eq_left']
    rw [← greatestSum_lt_iff time]
    have representable := representable_roundUnits time
    generalize roundUnits time 1 = added at representable ⊢
    constructor
    · intro above
      rw [greatestSum]
      omega
    · intro above
      obtain ⟨e, unit, _, least⟩ := representable_above representable above
      rw [Nat.pow_add, Nat.pow_add, ← unit] at least
      omega

theorem countDown_le (t : Timers) (ticks rest : Nat) :
    (t.countDown ticks rest).delay ≤ t.delay ∧ (t.countDown ticks rest).sound ≤ t.sound := by
  have less : ∀ b : UInt8, UInt8.ofNat (b.toNat - ticks) ≤ b := by
    intro b
    have bound := b.toNat_lt
    rw [UInt8.le_iff_toNat_le, UInt8.toNat_ofNat']
    omega
  exact ⟨less t.delay, less t.sound⟩

/-- An update that is accepted drains the sum of its ticks. -/
theorem update_success (t u : Timers) (r : Reading) (ticks : Nat)
    (accepted : t.update r = .ok (u, ticks)) :
    Drains (t.sumWith r.time?) ticks u.pendingUnits ∧ u = t.countDown ticks u.pendingUnits := by
  by_cases large : r.TooLarge
  · rw [t.update_tooLarge r large] at accepted
    cases accepted
  · by_cases above : greatestSum < t.sumWith r.time?
    · rw [t.update_endless r large above] at accepted
      cases accepted
    · obtain ⟨ticks', rest, drains, again⟩ := t.update_accepted r large (Nat.le_of_not_lt above)
      rw [again] at accepted
      cases accepted
      exact ⟨drains, rfl⟩

/-- Reachable timers have less than a tick pending. -/
theorem Reachable.pending {t : Timers} (reachable : t.Reachable) : t.pendingUnits < tickUnits := by
  induction reachable with
  | reset => exact tickUnits_pos
  | update t u r ticks before accepted ih => exact (t.update_success u r ticks accepted).1.rest_lt
  | setDelay t value before ih => exact ih
  | setSound t value before ih => exact ih

/-- An update raises exactly for the readings that are too large, never ends exactly for those that
are endless, and otherwise leaves less than a tick pending and no timer higher than before. -/
theorem update_answers (t : Timers) (reachable : t.Reachable) (r : Reading) :
    (t.update r = .error .tooLarge ↔ r.TooLarge) ∧
    (t.update r = .error .endless ↔ r.Endless) ∧
    (¬ r.TooLarge → ¬ r.Endless → ∃ u ticks, t.update r = .ok (u, ticks) ∧
      Drains (t.sumWith r.time?) ticks u.pendingUnits ∧
      u.pendingUnits < tickUnits ∧ u.delay ≤ t.delay ∧ u.sound ≤ t.sound) := by
  have above := t.greatestSum_lt_sumWith_iff r.time? reachable.pending
  by_cases large : r.TooLarge
  · have refused := t.update_tooLarge r large
    have ends : ¬ r.Endless := fun endless => endless.1 large
    simp [refused, large, ends]
  · by_cases endless : greatestSum < t.sumWith r.time?
    · have lost := t.update_endless r large endless
      have never : r.Endless := ⟨large, above.mp endless⟩
      simp [lost, large, never]
    · have ends : ¬ r.Endless := fun never => endless (above.mpr never.2)
      obtain ⟨ticks, rest, drains, accepted⟩ :=
        t.update_accepted r large (Nat.le_of_not_lt endless)
      have lower := t.countDown_le ticks rest
      refine ⟨?_, ?_, fun _ _ => ⟨_, ticks, accepted, drains, drains.rest_lt, lower⟩⟩
      · simp [accepted, large]
      · simp [accepted, ends]

/-! Three readings of a host's clock. -/

theorem huge_tooLarge : (Reading.number (.whole (10 ^ 400))).TooLarge := by
  unfold Reading.TooLarge
  decide +kernel

theorem great_endless : (Reading.number (.whole (2 ^ 60))).Endless := by
  refine ⟨by unfold Reading.TooLarge; decide +kernel, unitsPerOne * (60 * 2 ^ 60), rfl, ?_⟩
  rw [Nat.mul_comm]
  exact Nat.mul_lt_mul_of_pos_left (by decide +kernel) unitsPerOne_pos

theorem second_accepted :
    ¬ (Reading.number (.whole 1000)).TooLarge ∧ ¬ (Reading.number (.whole 1000)).Endless := by
  refine ⟨by unfold Reading.TooLarge; decide +kernel, ?_⟩
  rintro ⟨_, time, given, above⟩
  have same : unitsPerOne * (60 * 1000) = time := Option.some.inj given
  rw [← same, Nat.mul_comm, Nat.mul_lt_mul_left unitsPerOne_pos] at above
  revert above
  decide +kernel

/-- After a reset the first is refused, the second never ends, and the third is accepted. -/
theorem update_answers_reset :
    ({} : Timers).update (.number (.whole (10 ^ 400))) = .error .tooLarge ∧
    ({} : Timers).update (.number (.whole (2 ^ 60))) = .error .endless ∧
    ∃ u ticks, ({} : Timers).update (.number (.whole 1000)) = .ok (u, ticks) ∧
      u.pendingUnits < tickUnits := by
  obtain ⟨refused, _⟩ := update_answers {} .reset (.number (.whole (10 ^ 400)))
  obtain ⟨_, lost, _⟩ := update_answers {} .reset (.number (.whole (2 ^ 60)))
  obtain ⟨_, _, accepts⟩ := update_answers {} .reset (.number (.whole 1000))
  obtain ⟨u, ticks, accepted, _, pending, _⟩ := accepts second_accepted.1 second_accepted.2
  exact ⟨refused.mpr huge_tooLarge, lost.mpr great_endless, u, ticks, accepted, pending⟩

/-- Timers that have just been reset refuse one whole number and never come to an end with another. -/
theorem reset_refuses :
    Reachable {} ∧
    ({} : Timers).update (.number (.whole (10 ^ 400))) = .error .tooLarge ∧
    ({} : Timers).update (.number (.whole (2 ^ 60))) = .error .endless := by
  refine ⟨.reset, update_tooLarge _ _ huge_tooLarge, update_endless _ _ great_endless.1 ?_⟩
  exact (greatestSum_lt_sumWith_iff {} _ tickUnits_pos).mpr great_endless.2

end Timers
end Chip8
