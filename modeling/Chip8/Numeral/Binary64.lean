/-!
# Double-precision numbers

A finite number is a sign and a count of units, where the unit `2⁻¹⁰⁷⁴` is the least positive
number.  Every sum, product and quotient is computed exactly on the counts and then rounded once to
fifty-three significant bits, a half going to the even neighbour; a count that reaches `2²⁰⁹⁸` is
infinite.  Since the counts are natural numbers, laws of the arithmetic are laws of `Nat`.
-/
namespace Chip8

/-- A double-precision number.  What is not a number keeps its bit pattern. -/
inductive Binary64 where
  | finite (negative : Bool) (units : Nat)
  | infinite (negative : Bool)
  | nan (pattern : UInt64)
  deriving DecidableEq, Repr

namespace Binary64

/-- The number of units in one. -/
@[irreducible]
def unitsPerOne : Nat := Nat.pow 2 1074

/-- The least count of units that is infinite. -/
@[irreducible]
def overflow : Nat := Nat.pow 2 2098

/-- The integer nearest to `num / den`; of two the even one. -/
def nearest (num den : Nat) : Nat :=
  let q := num / den
  let r := num % den
  if 2 * r < den then q else if den < 2 * r then q + 1 else q + q % 2

/-- The distance between neighbours around a count of units. -/
def spacing (units : Nat) : Nat := Nat.pow 2 (units.log2 - 52)

/-- The count of units nearest to `num / den` that has at most fifty-three significant bits. -/
def roundUnits (num den : Nat) : Nat :=
  let step := spacing (num / den)
  nearest num (den * step) * step

/-- The number nearest to `num / den` units. -/
def ofQuotient (negative : Bool) (num den : Nat) : Binary64 :=
  let units := roundUnits num den
  if overflow ≤ units then infinite negative else finite negative units

/-- The result of an operation without a value. -/
def undefined : Binary64 := nan 0x7FF8000000000000

def zero : Binary64 := finite false 0

/-- A signed count of units, of a finite number. -/
def signedUnits (negative : Bool) (units : Nat) : Int :=
  if negative then -(units : Int) else units

/-- The number nearest to an integer, unless that is infinite. -/
def ofInt? (n : Int) : Option Binary64 :=
  let units := roundUnits (unitsPerOne * n.natAbs) 1
  if overflow ≤ units then none else some (finite (n < 0) units)

/-- The number with the opposite sign. -/
def neg : Binary64 → Binary64
  | finite s u => finite (!s) u
  | infinite s => infinite (!s)
  | nan p => nan p

/-- The rounded sum. -/
def add : Binary64 → Binary64 → Binary64
  | nan p, _ => nan p
  | _, nan p => nan p
  | infinite s, infinite t => if s = t then infinite s else undefined
  | infinite s, _ => infinite s
  | _, infinite t => infinite t
  | finite s u, finite t v =>
    let sum := signedUnits s u + signedUnits t v
    if sum = 0 then finite (s && t) 0 else ofQuotient (sum < 0) sum.natAbs 1

/-- The rounded difference. -/
def sub (x y : Binary64) : Binary64 := add x (neg y)

/-- The rounded product. -/
def mul : Binary64 → Binary64 → Binary64
  | nan p, _ => nan p
  | _, nan p => nan p
  | infinite s, infinite t => infinite (s ^^ t)
  | infinite s, finite t v => if v = 0 then undefined else infinite (s ^^ t)
  | finite s u, infinite t => if u = 0 then undefined else infinite (s ^^ t)
  | finite s u, finite t v => ofQuotient (s ^^ t) (u * v) unitsPerOne

/-- The rounded quotient. -/
def div : Binary64 → Binary64 → Binary64
  | nan p, _ => nan p
  | _, nan p => nan p
  | infinite _, infinite _ => undefined
  | infinite s, finite t _ => infinite (s ^^ t)
  | finite s _, infinite t => finite (s ^^ t) 0
  | finite s u, finite t v =>
    if v = 0 then if u = 0 then undefined else infinite (s ^^ t)
    else ofQuotient (s ^^ t) (u * unitsPerOne) v

/-- Whether the first number is less than the second; what is not a number is neither. -/
def lt : Binary64 → Binary64 → Bool
  | nan _, _ => false
  | _, nan _ => false
  | infinite s, infinite t => s && !t
  | infinite s, finite _ _ => s
  | finite _ _, infinite t => !t
  | finite s u, finite t v => signedUnits s u < signedUnits t v

/-- Whether the number is a zero of either sign. -/
def isZero : Binary64 → Bool
  | finite _ u => u = 0
  | _ => false

/-- The number with the given bit pattern: sign, eleven bits of exponent, fifty-two of fraction. -/
def ofBits (pattern : UInt64) : Binary64 :=
  let n := pattern.toNat
  let negative := decide (Nat.pow 2 63 ≤ n)
  let exponent := n / Nat.pow 2 52 % Nat.pow 2 11
  let fraction := n % Nat.pow 2 52
  if exponent = 2047 then if fraction = 0 then infinite negative else nan pattern
  else if exponent = 0 then finite negative fraction
  else finite negative ((fraction + Nat.pow 2 52) * Nat.pow 2 (exponent - 1))

/-- The bit pattern of a number.  A count of units without its trailing zeros and with its leading
bit left to carry into the exponent is the pattern itself. -/
def toBits : Binary64 → UInt64
  | finite s u =>
    let shift := u.log2 - 52
    let sign := if s then Nat.pow 2 63 else 0
    UInt64.ofNat (sign + shift * Nat.pow 2 52 + u / Nat.pow 2 shift)
  | infinite s =>
    let sign := if s then Nat.pow 2 63 else 0
    UInt64.ofNat (sign + 2047 * Nat.pow 2 52)
  | nan p => p

theorem nearest_one (n : Nat) : nearest n 1 = n := by
  unfold nearest
  simp [Nat.mod_one]

/-- A count of at most fifty-three bits is not changed by rounding. -/
theorem roundUnits_of_lt {n : Nat} (h : n < Nat.pow 2 53) : roundUnits n 1 = n := by
  have hs : spacing n = 1 := by
    unfold spacing
    by_cases h0 : n = 0
    · simp [h0]
    · have : n.log2 < 53 := (Nat.log2_lt h0).2 h
      have h1 : n.log2 - 52 = 0 := by omega
      simp [h1]
  simp [roundUnits, hs, nearest_one]

end Binary64
end Chip8
