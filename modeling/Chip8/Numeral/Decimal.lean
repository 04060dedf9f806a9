import Chip8.Numeral.Binary64
import Chip8.Numeral.Integer

/-!
# Double-precision numbers in text

A sign, digits with at most one point among them, and optionally an exponent; or the words for
infinity and for what is not a number, in any case.  The exact value is rounded once.
-/
namespace Chip8.Numeral

/-- The parts of a decimal numeral without its sign. -/
structure Parts where
  whole : List Char
  fraction : List Char
  exponent : Int
  deriving DecidableEq, Repr

def isDecimal (c : Char) : Bool := '0' ≤ c && c ≤ '9'

def decimalValue (s : List Char) : Nat := ofDigits 10 (s.map fun c => c.toNat - 48)

/-- Reads the exponent after the digits, which is empty or starts with `e`. -/
def exponent? : List Char → Option Int
  | [] => some 0
  | c :: rest =>
    if c = 'e' || c = 'E' then
      let (negative, digits) := splitSign rest
      if !digits.isEmpty && digits.all isDecimal then
        some (signed negative (decimalValue digits))
      else none
    else none

/-- Splits a decimal numeral; it has at least one digit before or after the point. -/
def parts? (s : List Char) : Option Parts :=
  let whole := s.takeWhile isDecimal
  let rest := s.dropWhile isDecimal
  let (fraction, rest) :=
    match rest with
    | '.' :: after => (after.takeWhile isDecimal, after.dropWhile isDecimal)
    | _ => ([], rest)
  if whole.isEmpty && fraction.isEmpty then none
  else (exponent? rest).map fun e => ⟨whole, fraction, e⟩

/-- The number nearest to a signed decimal.  A decimal far outside the range is not expanded. -/
def nearestBinary64 (negative : Bool) (coefficient : Nat) (e : Int) : Binary64 :=
  let length : Int := (toString coefficient).length
  if coefficient = 0 then .finite negative 0
  else if 310 ≤ e + length then .infinite negative
  else if e + length ≤ -324 then .finite negative 0
  else
    .ofQuotient negative (coefficient * Nat.pow 10 e.toNat * Binary64.unitsPerOne)
      (Nat.pow 10 (-e).toNat)

/-- Reads a double-precision number. -/
def binary64? (s : String) : Option Binary64 := do
  let plain ← withoutUnderscores isDecimal false (body s)
  let (negative, rest) := splitSign plain
  let word := String.ofList (rest.map Char.toLower)
  if word = "inf" || word = "infinity" then some (.infinite negative)
  else if word = "nan" then some .undefined
  else
    let p ← parts? rest
    some (nearestBinary64 negative (decimalValue (p.whole ++ p.fraction))
      (p.exponent - p.fraction.length))

end Chip8.Numeral
