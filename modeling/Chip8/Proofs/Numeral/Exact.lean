import Chip8.Proofs.Timers.Elapsed

/-!
# Whole numbers in double precision

A whole number below `2⁵³` is a double-precision number, and so is the difference of two numbers
that are whole if it is below `2⁵³`, however large the numbers are.  Such a difference is computed
without rounding, and so is a product of such numbers.
-/
namespace Chip8

namespace Binary64

/-- Rounding does not look at a common factor. -/
theorem nearest_mul (num den k : Nat) (positive : 0 < k) :
    nearest (num * k) (den * k) = nearest num den := by
  have quotient : num * k / (den * k) = num / den := Nat.mul_div_mul_right _ _ positive
  have rest : num * k % (den * k) = num % den * k := Nat.mul_mod_mul_right _ _ _
  have below : 2 * (num % den * k) < den * k ↔ 2 * (num % den) < den := by
    rw [← Nat.mul_assoc, Nat.mul_lt_mul_right positive]
  have above : den * k < 2 * (num % den * k) ↔ den < 2 * (num % den) := by
    rw [← Nat.mul_assoc, Nat.mul_lt_mul_right positive]
  simp only [nearest, quotient, rest, below, above]

theorem roundUnits_mul (n den : Nat) (positive : 0 < den) :
    roundUnits (n * den) den = roundUnits n 1 := by
  have scaled : den * spacing n = spacing n * den := Nat.mul_comm _ _
  simp only [roundUnits, Nat.mul_div_cancel _ positive, Nat.div_one, Nat.one_mul, scaled,
    nearest_mul _ _ _ positive]

theorem whole_lt_overflow (n : Nat) (small : n < 2 ^ 53) : n * unitsPerOne < overflow := by
  rw [overflow_eq]
  exact Nat.mul_lt_mul_of_pos_right (small.trans (by decide +kernel)) unitsPerOne_pos

/-- A quotient that is a whole number is not rounded. -/
theorem ofQuotient_whole (negative : Bool) (n den : Nat) (positive : 0 < den)
    (small : n < 2 ^ 53) :
    ofQuotient negative (n * unitsPerOne * den) den = finite negative (n * unitsPerOne) := by
  have finite := Nat.not_le.mpr (whole_lt_overflow n small)
  have exact := (Timers.representable_whole n small).roundUnits
  simp only [ofQuotient, roundUnits_mul _ _ positive, exact, if_neg finite]

theorem signedUnits_natAbs (n : Int) : signedUnits (n < 0) n.natAbs = n := by
  by_cases negative : n < 0
  · simp only [signedUnits, decide_eq_true_eq, if_pos negative]
    omega
  · simp only [signedUnits, decide_eq_true_eq, if_neg negative]
    omega

theorem signedUnits_neg (negative : Bool) (units : Nat) :
    signedUnits (!negative) units = -signedUnits negative units := by
  cases negative <;> simp [signedUnits]

theorem signedUnits_mul (s t : Bool) (u v : Nat) :
    signedUnits (s ^^ t) (u * v) = signedUnits s u * signedUnits t v := by
  cases s <;> cases t <;> simp [signedUnits]

/-- Whether a number is equal to a whole number. -/
def Equals (x : Binary64) (n : Int) : Prop :=
  ∃ negative units, x = finite negative units ∧ signedUnits negative units = n * unitsPerOne

/-- A whole number, converted. -/
theorem ofInt?_equals (n : Int) (small : n.natAbs < 2 ^ 53) :
    ∃ x, ofInt? n = some x ∧ x.Equals n := by
  have exact := (Timers.representable_whole n.natAbs small).roundUnits
  have finite := Nat.not_le.mpr (whole_lt_overflow n.natAbs small)
  rw [Nat.mul_comm] at exact finite
  refine ⟨.finite (n < 0) (unitsPerOne * n.natAbs), ?_, _, _, rfl, ?_⟩
  · simp only [ofInt?, exact, if_neg finite]
  · by_cases negative : n < 0
    · have size : (n.natAbs : Int) = -n := by omega
      simp [signedUnits, negative, size, Int.mul_comm]
    · have size : (n.natAbs : Int) = n := by omega
      simp [signedUnits, negative, size, Int.mul_comm]

/-- A difference of whole numbers that is small enough is exact, also where they are not. -/
theorem sub_equals {x y : Binary64} {m n : Int} (left : x.Equals m) (right : y.Equals n)
    (small : (m - n).natAbs < 2 ^ 53) : (x.sub y).Equals (m - n) := by
  obtain ⟨s, u, rfl, first⟩ := left
  obtain ⟨t, v, rfl, second⟩ := right
  have sum : signedUnits s u + signedUnits (!t) v = (m - n) * unitsPerOne := by
    rw [signedUnits_neg, first, second, Int.sub_mul, Int.sub_eq_add_neg]
  simp only [sub, neg, add, sum]
  split
  · next zero =>
    refine ⟨_, _, rfl, ?_⟩
    rw [zero]
    cases s <;> cases t <;> rfl
  · have size : ((m - n) * (unitsPerOne : Int)).natAbs = (m - n).natAbs * unitsPerOne * 1 := by
      rw [Int.natAbs_mul, Int.natAbs_natCast, Nat.mul_one]
    rw [size, ofQuotient_whole _ _ 1 Nat.one_pos small]
    refine ⟨_, _, rfl, ?_⟩
    rw [Nat.mul_one] at size
    rw [← size, signedUnits_natAbs]

theorem units_eq {s : Bool} {u : Nat} {n : Int} (equal : signedUnits s u = n * unitsPerOne) :
    u = n.natAbs * unitsPerOne := by
  have size := congrArg Int.natAbs equal
  rw [Int.natAbs_mul, Int.natAbs_natCast] at size
  rw [← size]
  cases s <;> simp [signedUnits]

theorem mul_equals {x y : Binary64} {m n : Int} (left : x.Equals m) (right : y.Equals n)
    (small : (m * n).natAbs < 2 ^ 53) : (x.mul y).Equals (m * n) := by
  obtain ⟨s, u, rfl, first⟩ := left
  obtain ⟨t, v, rfl, second⟩ := right
  have positive := unitsPerOne_pos
  have size : u * v = (m * n).natAbs * unitsPerOne * unitsPerOne := by
    rw [units_eq first, units_eq second, Int.natAbs_mul]
    ring
  have sign : signedUnits (s ^^ t) ((m * n).natAbs * unitsPerOne) = m * n * unitsPerOne := by
    have nonzero : (unitsPerOne : Int) ≠ 0 := by omega
    apply Int.eq_of_mul_eq_mul_right nonzero
    calc
      _ = signedUnits (s ^^ t ^^ false) ((m * n).natAbs * unitsPerOne * unitsPerOne) :=
        (signedUnits_mul (s ^^ t) false _ _).symm
      _ = signedUnits s u * signedUnits t v := by rw [Bool.xor_false, ← size, signedUnits_mul]
      _ = m * n * unitsPerOne * unitsPerOne := by
        rw [first, second]
        ring
  simp only [mul, size, ofQuotient_whole _ _ _ positive small]
  exact ⟨_, _, rfl, sign⟩

theorem zero_equals : zero.Equals 0 := ⟨false, 0, rfl, by simp [signedUnits]⟩

theorem thousand_equals : (ofQuotient false (1000 * unitsPerOne) 1).Equals 1000 := by
  have exact := ofQuotient_whole false 1000 1 Nat.one_pos (by decide)
  rw [Nat.mul_one] at exact
  exact ⟨_, _, exact, rfl⟩

/-- The whole milliseconds that such a number counts as. -/
theorem milliseconds?_equals {x : Binary64} {n : Nat} (equal : x.Equals n) :
    (Reading.number (.real x)).milliseconds? = some n := by
  obtain ⟨s, u, rfl, equal⟩ := equal
  have positive := unitsPerOne_pos
  have units := units_eq equal
  rw [Int.natAbs_natCast] at units
  subst units
  cases s with
  | true =>
    -- of the numbers that are not below zero, zero alone has this sign
    have none : n * unitsPerOne = 0 := by
      rw [signedUnits, if_pos rfl, ← Int.natCast_mul] at equal
      omega
    obtain rfl : n = 0 := (Nat.mul_eq_zero.mp none).resolve_right positive.ne'
    rfl
  | false =>
    have multiple : unitsPerOne ∣ n * unitsPerOne := Nat.dvd_mul_left _ _
    simp only [Reading.milliseconds?, Bool.false_eq_true, if_false, if_pos multiple,
      Nat.mul_div_cancel _ positive]

end Binary64

namespace Number

/-- Whether a number is equal to a whole number. -/
def Equals : Number → Int → Prop
  | whole m, n => m = n
  | real x, n => x.Equals n

/-- Whether whole numbers among some numbers are not too large to be converted without rounding,
where there are others. -/
def Convertible (numbers : List Number) : Prop :=
  (∀ x ∈ numbers, ∃ n, x = whole n) ∨ ∀ n, whole n ∈ numbers → n.natAbs < 2 ^ 53

theorem Convertible.mono {few many : List Number} (convertible : Convertible many)
    (among : few ⊆ many) : Convertible few :=
  convertible.imp (fun wholes x member => wholes x (among member))
    fun small n member => small n (among member)

theorem toBinary64_equals {x : Number} {n : Int} (equal : x.Equals n)
    (small : ∀ k, x = whole k → k.natAbs < 2 ^ 53) :
    ∃ y, x.toBinary64 = .ok y ∧ y.Equals n := by
  cases x with
  | whole k =>
    obtain rfl : k = n := equal
    obtain ⟨y, converted, same⟩ := Binary64.ofInt?_equals k (small k rfl)
    exact ⟨y, by simp only [toBinary64, converted], same⟩
  | real y => exact ⟨y, rfl, equal⟩

/-- A difference in which a double-precision number takes part. -/
theorem sub_real {x y : Number} {a b : Binary64} (mixed : ¬ ∃ m n, x = whole m ∧ y = whole n)
    (left : x.toBinary64 = .ok a) (right : y.toBinary64 = .ok b) :
    x.sub y = .ok (.real (a.sub b)) := by
  cases x with
  | whole m =>
    cases y with
    | whole n => exact absurd ⟨m, n, rfl, rfl⟩ mixed
    | real y => simp only [sub, combine, left, right, bind, Except.bind, pure, Except.pure]
  | real x => simp only [sub, combine, left, right, bind, Except.bind, pure, Except.pure]

/-- A difference of numbers that are whole is exact if it is small enough. -/
theorem sub_equals {x y : Number} {m n : Int} (left : x.Equals m) (right : y.Equals n)
    (convertible : Convertible [x, y]) (small : (m - n).natAbs < 2 ^ 53) :
    ∃ z, x.sub y >>= toBinary64 = .ok z ∧ z.Equals (m - n) := by
  by_cases wholes : ∃ k l, x = whole k ∧ y = whole l
  · obtain ⟨_, _, rfl, rfl⟩ := wholes
    cases left
    cases right
    exact toBinary64_equals (x := whole (m - n)) rfl fun k same => by cases same; exact small
  · have few : ∀ k, whole k ∈ [x, y] → k.natAbs < 2 ^ 53 := by
      refine convertible.resolve_left fun all => wholes ?_
      obtain ⟨k, first⟩ := all x (by simp)
      obtain ⟨l, second⟩ := all y (by simp)
      exact ⟨k, l, first, second⟩
    obtain ⟨a, first, equalX⟩ := toBinary64_equals left fun k same => few k (by simp [same])
    obtain ⟨b, second, equalY⟩ := toBinary64_equals right fun k same => few k (by simp [same])
    refine ⟨a.sub b, ?_, Binary64.sub_equals equalX equalY small⟩
    rw [sub_real wholes first second]
    rfl

end Number
end Chip8
