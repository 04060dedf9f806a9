import Chip8.Numeral.Binary64

/-!
# Shortest decimal text

A finite number is written with the fewest decimal digits that round back to it, and among those
with the digits nearest to it.  Grids of one, two, … digits are tried in turn: the number has two
neighbours on a grid, and the first grid with a neighbour inside the interval of reals that round
to the number gives the digits.  Seventeen digits always suffice.

The text is positional for decimal exponents from `-4` to `15` and keeps `.0` on whole numbers;
other exponents are written after an `e` with a sign and at least two digits.
-/
namespace Chip8.Binary64

/-- A positive decimal number: the digits of `coefficient` times ten to the `exponent`. -/
structure Decimal where
  coefficient : Nat
  exponent : Int
  deriving DecidableEq, Repr

/-- `10 ^ e` as a pair of factors of a quotient. -/
def tenPower (e : Int) : Nat × Nat := (Nat.pow 10 e.toNat, Nat.pow 10 (-e).toNat)

/-- Whether `units` is at least `10 ^ e`. -/
def reaches (units : Nat) (e : Int) : Bool :=
  let (up, down) := tenPower e
  up * unitsPerOne ≤ units * down

/-- The exponent of the leading decimal digit of a positive count of units. -/
def leadingExponent (units : Nat) : Int :=
  let guess := ((units.log2 : Int) - 1074) * 30103 / 100000
  if !reaches units guess then guess - 1
  else if reaches units (guess + 1) then guess + 1
  else guess

/-- Whether `coefficient * 10 ^ e` rounds to `units`.  The interval reaches half the spacing up,
and half the spacing of the lower neighbour down; its ends count for even numbers. -/
def roundsTo (units coefficient : Nat) (e : Int) : Bool :=
  let step := spacing units
  let below := if units = Nat.pow 2 units.log2 then spacing (units - 1) else step
  let even := units / step % 2 = 0
  let (up, down) := tenPower e
  let point := 4 * (coefficient * up * unitsPerOne)
  let low := (4 * units - 2 * below) * down
  let high := (4 * units + 2 * step) * down
  if even then low ≤ point && point ≤ high else low < point && point < high

/-- The neighbour of `units` on the grid of multiples of `10 ^ e` that rounds to it, the nearer one
if both do. -/
def onGrid? (units : Nat) (e : Int) : Option Decimal :=
  let (up, down) := tenPower e
  let num := units * down
  let den := up * unitsPerOne
  let floor := num / den
  let lowHits := roundsTo units floor e
  let highHits := roundsTo units (floor + 1) e
  if lowHits && highHits then some ⟨nearest num den, e⟩
  else if lowHits then some ⟨floor, e⟩
  else if highHits then some ⟨floor + 1, e⟩
  else none

/-- The shortest decimal that rounds to a positive count of units, trying `fuel` more grids. -/
def shortestFrom (units : Nat) (e : Int) : Nat → Decimal
  | 0 => ⟨units, e⟩
  | fuel + 1 =>
    match onGrid? units e with
    | some d => d
    | none => shortestFrom units (e - 1) fuel

/-- The shortest decimal that rounds to a positive count of units. -/
def shortest (units : Nat) : Decimal := shortestFrom units (leadingExponent units) 18

/-- The coefficient without its trailing zeros, at most `fuel` of them. -/
def Decimal.trimmed (d : Decimal) : Nat → Decimal
  | 0 => d
  | fuel + 1 =>
    if d.coefficient % 10 = 0 then Decimal.trimmed ⟨d.coefficient / 10, d.exponent + 1⟩ fuel
    else d

/-- The least and the greatest exponent of the leading digit that is written positionally. -/
def positionalFrom : Int := -4
def positionalTo : Int := 15

/-- An exponent with its sign and at least two digits. -/
def exponentText (e : Int) : String :=
  let digits := toString e.natAbs
  (if e < 0 then "-" else "+") ++ (if digits.length < 2 then "0" ++ digits else digits)

/-- The text of a positive decimal. -/
def Decimal.text (d : Decimal) : String :=
  let digits := (toString d.coefficient).toList
  let count := digits.length
  let leading := d.exponent + count - 1
  if positionalFrom ≤ leading ∧ leading ≤ positionalTo then
    if 0 ≤ d.exponent then
      String.ofList (digits ++ List.replicate d.exponent.toNat '0') ++ ".0"
    else if 0 ≤ leading then
      let whole := (leading + 1).toNat
      String.ofList (digits.take whole) ++ "." ++ String.ofList (digits.drop whole)
    else
      "0." ++ String.ofList (List.replicate (-leading - 1).toNat '0' ++ digits)
  else
    let fraction := digits.drop 1
    String.ofList (digits.take 1)
      ++ (if fraction.isEmpty then "" else "." ++ String.ofList fraction)
      ++ "e" ++ exponentText leading

/-- The shortest text that reads back as the number. -/
def text : Binary64 → String
  | nan _ => "nan"
  | infinite s => if s then "-inf" else "inf"
  | finite s u =>
    (if s then "-" else "")
      ++ (if u = 0 then "0.0" else ((shortest u).trimmed 18).text)

end Chip8.Binary64
