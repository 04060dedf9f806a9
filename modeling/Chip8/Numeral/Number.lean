import Chip8.Numeral.Shortest

/-!
# Whole and double-precision numbers

A number is kept as it was given, whole or double-precision.  Whole numbers are added and
subtracted exactly; where a double-precision number takes part, a whole one is converted first, and
that fails when it is too large.
-/
namespace Chip8

/-- A whole number of any size or a double-precision number. -/
inductive Number where
  | whole (n : Int)
  | real (x : Binary64)
  deriving DecidableEq, Repr

/-- A whole number is too large to be converted to double precision. -/
inductive ConversionError where
  | tooLarge
  deriving DecidableEq, Repr

def ConversionError.message : ConversionError → String
  | .tooLarge => "int too large to convert to float"

namespace Number

/-- The double-precision number nearest to a number. -/
def toBinary64 : Number → Except ConversionError Binary64
  | whole n =>
    match Binary64.ofInt? n with
    | some x => .ok x
    | none => .error .tooLarge
  | real x => .ok x

/-- Combines two numbers, exactly when both are whole. -/
def combine (exact : Int → Int → Int) (rounded : Binary64 → Binary64 → Binary64) :
    Number → Number → Except ConversionError Number
  | whole m, whole n => .ok (whole (exact m n))
  | x, y => do return real (rounded (← x.toBinary64) (← y.toBinary64))

def add : Number → Number → Except ConversionError Number := combine (· + ·) Binary64.add

def sub : Number → Number → Except ConversionError Number := combine (· - ·) Binary64.sub

/-- Whether the number is below zero. -/
def isNegative : Number → Bool
  | whole n => n < 0
  | real x => x.lt .zero

/-- Whether the number is a zero. -/
def isZero : Number → Bool
  | whole n => n = 0
  | real x => x.isZero

def text : Number → String
  | whole n => toString n
  | real x => x.text

end Number
end Chip8
