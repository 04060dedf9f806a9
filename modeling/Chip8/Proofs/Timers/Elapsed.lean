import Chip8.Proofs.Timers.Update

/-!
# Counting elapsed time

Whole milliseconds are counted exactly, however they are split.  Sixty times a number of them and
what is pending are together a whole number below `2⁵³`, so that nothing is lost in rounding, and
what does not make a tick is carried to the next update.
-/
namespace Chip8

namespace Reading
open Binary64

/-- The whole milliseconds that a reading counts as: none if it does not count as time.  A time that
is not whole has no such number. -/
def milliseconds? : Reading → Option Nat
  | number (.whole n) => some n.toNat
  | number (.real (.finite negative u)) =>
    if negative then some 0 else if unitsPerOne ∣ u then some (u / unitsPerOne) else none
  | flag b => some (if b then 1 else 0)
  | _ => some 0

/-- Whether a reading counts as whole milliseconds, and as so few that double precision is exact. -/
def Exact (r : Reading) : Prop := ∃ n, r.milliseconds? = some n ∧ 60 * n + 1000 < 2 ^ 53

/-- The whole milliseconds that some readings count as. -/
def elapsed (readings : List Reading) : Nat :=
  (readings.map fun r => r.milliseconds?.getD 0).sum

/-- Sixty times the milliseconds are the time of a reading. -/
theorem time?_milliseconds (r : Reading) (n : Nat) (whole : r.milliseconds? = some n) :
    r.time?.getD 0 = 60 * n * unitsPerOne := by
  match r, whole with
  | number (.whole k), whole =>
    cases whole
    by_cases negative : k < 0
    · have none : k.toNat = 0 := by omega
      simp only [time?, if_pos negative, none, Option.getD_none, Nat.mul_zero, Nat.zero_mul]
    · have same : k.toNat = k.natAbs := by omega
      simp only [time?, if_neg negative, same, Option.getD_some, Nat.mul_comm unitsPerOne]
  | number (.real (.finite negative u)), whole =>
    simp only [milliseconds?] at whole
    cases negative with
    | true =>
      cases whole
      by_cases zero : u = 0 <;> simp [time?, zero]
    | false =>
      simp only [Bool.false_eq_true, if_false] at whole
      split at whole
      · next multiple =>
        cases whole
        have units := Nat.div_mul_cancel multiple
        simp only [time?, Bool.false_and, Bool.false_eq_true, if_false, Option.getD_some,
          Nat.mul_assoc, units]
      · cases whole
  | flag b, whole =>
    cases whole
    simp only [time?, Option.getD_some, Nat.mul_comm unitsPerOne]
  | number (.real (.infinite _)), whole | number (.real (.nan _)), whole | text _, whole
  | missing, whole | sequence _, whole | table _, whole =>
    cases whole
    simp [time?]

/-- A reading that is too large although it counts as few milliseconds is below zero. -/
theorem Exact.tooLarge {r : Reading} (exact : r.Exact) (large : r.TooLarge) :
    r.milliseconds? = some 0 := by
  obtain ⟨n, whole, few⟩ := exact
  unfold TooLarge at large
  split at large
  · next k =>
    cases whole
    by_cases negative : k < 0
    · have none : k.toNat = 0 := by omega
      rw [milliseconds?, none]
    · rw [if_neg negative] at large
      have same : k.toNat = k.natAbs := by omega
      rw [same] at few
      have powers : 2 ^ 970 + 2 ^ 53 < 2 ^ 1024 := by decide +kernel
      omega
  · exact large.elim

end Reading

namespace Timers
open Binary64

/-- The timers after an update; one that is refused changes nothing. -/
def given (t : Timers) (r : Reading) : Timers :=
  match t.update r with
  | .ok (u, _) => u
  | .error _ => t

/-- What each of some updates comes to, made one after the other: its ticks, unless it is refused.
-/
def answers (t : Timers) : List Reading → List (Except TimerError Nat)
  | [] => []
  | r :: rest => (t.update r).map Prod.snd :: (t.given r).answers rest

/-- The ticks that an update has counted. -/
def counted : Except TimerError Nat → Nat
  | .ok ticks => ticks
  | .error _ => 0

/-- Timers that were set and have been given `n` milliseconds since nothing was pending. -/
structure Elapsed (delay sound : UInt8) (n : Nat) (t : Timers) : Prop where
  ticks : t.ticks = 60 * n / 1000
  pending : t.pendingUnits = 60 * n % 1000 * unitsPerOne
  delay : t.delay.toNat = delay.toNat - 60 * n / 1000
  sound : t.sound.toNat = sound.toNat - 60 * n / 1000

/-- The settings and the milliseconds determine the timers. -/
theorem Elapsed.unique {delay sound : UInt8} {n : Nat} {t u : Timers}
    (first : t.Elapsed delay sound n) (second : u.Elapsed delay sound n) : t = u := by
  have delays := UInt8.toNat_inj.mp (first.delay.trans second.delay.symm)
  have sounds := UInt8.toNat_inj.mp (first.sound.trans second.sound.symm)
  have pending := first.pending.trans second.pending.symm
  have ticks := first.ticks.trans second.ticks.symm
  cases t
  cases u
  simp_all

theorem elapsed_set (delay sound : UInt8) :
    ({ delay, sound } : Timers).Elapsed delay sound 0 := by
  constructor <;> simp

/-- What is left of a byte that is counted down, stopping at zero. -/
theorem toNat_countDown (b : UInt8) (ticks : Nat) :
    (UInt8.ofNat (b.toNat - ticks)).toNat = b.toNat - ticks := by
  have := b.toNat_lt
  rw [UInt8.toNat_ofNat']
  omega

/-- A whole number below `2⁵³` is not changed by rounding. -/
theorem representable_whole (n : Nat) (small : n < 2 ^ 53) : Representable (n * unitsPerOne) := by
  obtain ⟨e, unit⟩ := unitsPerOne_pow
  rw [unit]
  refine representable_of_dvd e (Nat.dvd_mul_left _ _) ?_
  rw [Nat.pow_add]
  exact Nat.mul_lt_mul_of_pos_right small (Nat.two_pow_pos e)

/-- An update with few whole milliseconds divides the sum by the time of a tick. -/
theorem update_whole (t : Timers) (r : Reading) (p n : Nat)
    (pending : t.pendingUnits = p * unitsPerOne)
    (less : p < 1000) (whole : r.milliseconds? = some n) (few : 60 * n + 1000 < 2 ^ 53)
    (small : ¬ r.TooLarge) :
    t.update r = .ok (t.countDown ((p + 60 * n) / 1000) ((p + 60 * n) % 1000 * unitsPerOne),
      (p + 60 * n) / 1000) := by
  have positive := unitsPerOne_pos
  have time := r.time?_milliseconds n whole
  have rounded : (r.time?.map (roundUnits · 1)).getD 0 = 60 * n * unitsPerOne := by
    rw [← time]
    cases given : r.time? with
    | none => rfl
    | some units =>
      rw [given, Option.getD_some] at time
      rw [Option.map_some, Option.getD_some, Option.getD_some, time]
      exact (representable_whole (60 * n) (by omega)).roundUnits
  have exact := representable_whole (p + 60 * n) (by omega)
  have sum : t.sumWith r.time? = (p + 60 * n) * unitsPerOne := by
    rw [sumWith, rounded, pending, ← Nat.add_mul, exact.roundUnits]
  have bounded : t.sumWith r.time? ≤ greatestSum := by
    rw [sum, greatestSum]
    exact Nat.mul_le_mul_right _ (by omega)
  have below : (p + 60 * n) * unitsPerOne < exactBelow := by
    have power : Nat.pow 2 56 = 2 ^ 56 := rfl
    rw [exactBelow, power]
    exact Nat.mul_lt_mul_of_pos_right (by omega) positive
  obtain ⟨ticks, rest, drains, accepted⟩ := t.update_accepted r small bounded
  rw [sum] at drains
  obtain ⟨rfl, rfl⟩ := drains.unique (drains_division _ exact below)
  rw [accepted, tickUnits, Nat.mul_div_mul_right _ _ positive, Nat.mul_mod_mul_right]

section Run
variable {delay sound : UInt8} {n : Nat} {t : Timers}

/-- An update of timers counts its milliseconds, unless it is refused. -/
theorem Elapsed.given (elapsed : t.Elapsed delay sound n) (r : Reading) (exact : r.Exact) :
    (t.given r).Elapsed delay sound (n + r.milliseconds?.getD 0) ∧
    60 * n / 1000 + counted ((t.update r).map Prod.snd) =
      60 * (n + r.milliseconds?.getD 0) / 1000 ∧
    (∀ e, (t.update r).map Prod.snd = .error e ↔ r.TooLarge ∧ e = .tooLarge) := by
  by_cases large : r.TooLarge
  · have refused := t.update_tooLarge r large
    have none := exact.tooLarge large
    simp only [Timers.given, refused, none, Option.getD_some, Nat.add_zero]
    exact ⟨elapsed, rfl, fun e => by simp [Except.map, large, eq_comm]⟩
  · obtain ⟨k, whole, few⟩ := exact
    have accepted := t.update_whole r (60 * n % 1000) k elapsed.pending (Nat.mod_lt _ (by decide))
      whole few large
    have ticks := elapsed.ticks
    have delays := elapsed.delay
    have sounds := elapsed.sound
    simp only [Timers.given, accepted, whole, Option.getD_some]
    refine ⟨⟨?_, ?_, ?_, ?_⟩, ?_, fun e => by simp [Except.map, large]⟩
    · simp only [countDown]
      omega
    · have rest : (60 * n % 1000 + 60 * k) % 1000 = 60 * (n + k) % 1000 := by omega
      simp only [countDown, rest]
    · simp only [countDown, toNat_countDown]
      omega
    · simp only [countDown, toNat_countDown]
      omega
    · simp only [Except.map, counted]
      omega

/-- So do updates one after the other. -/
theorem Elapsed.givenAll (elapsed : t.Elapsed delay sound n) (readings : List Reading)
    (exact : ∀ r ∈ readings, r.Exact) :
    (readings.foldl Timers.given t).Elapsed delay sound (n + Reading.elapsed readings) ∧
    60 * n / 1000 + ((t.answers readings).map counted).sum =
      60 * (n + Reading.elapsed readings) / 1000 ∧
    List.Forall₂ (fun r a => ∀ e, a = .error e ↔ r.TooLarge ∧ e = .tooLarge) readings
      (t.answers readings) := by
  induction readings generalizing t n with
  | nil =>
    rw [Reading.elapsed, List.map_nil, List.sum_nil, Nat.add_zero]
    exact ⟨elapsed, rfl, .nil⟩
  | cons r rest ih =>
    obtain ⟨after, ticks, refused⟩ := elapsed.given r (exact r List.mem_cons_self)
    obtain ⟨last, more, others⟩ := ih after fun r member => exact r (List.mem_cons_of_mem _ member)
    have total : n + Reading.elapsed (r :: rest) =
        n + r.milliseconds?.getD 0 + Reading.elapsed rest := by
      simp only [Reading.elapsed, List.map_cons, List.sum_cons, Nat.add_assoc]
    rw [total]
    refine ⟨last, ?_, .cons refused others⟩
    rw [answers, List.map_cons, List.sum_cons]
    omega

end Run

end Timers
end Chip8
