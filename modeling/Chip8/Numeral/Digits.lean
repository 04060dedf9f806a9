import Chip8.Text.DecimalDigit
import Chip8.Text.Trim

/-!
# Digits in a numeral

A numeral may stand between blanks, may use the decimal digits of any script, and may set one
underscore between two digits.
-/
namespace Chip8.Numeral

/-- The blanks that may surround a numeral: all but the four information separators. -/
def isMargin (c : Char) : Bool :=
  Text.blank.contains c && !(0x1C ≤ c.toNat && c.toNat ≤ 0x1F)

/-- A decimal digit of any script as the ASCII digit of the same value. -/
def plainDigit (c : Char) : Char :=
  match Text.decimalDigit? c with
  | some d => Char.ofNat (48 + d)
  | none => c

/-- The characters of a numeral, with plain digits and without its margins. -/
def body (s : String) : List Char :=
  (Text.trimBoth isMargin s.toList).map plainDigit

/-- The value of a digit: `0` to `9`, then the letters of the alphabet in either case. -/
def digitValue? (c : Char) : Option Nat :=
  if '0' ≤ c ∧ c ≤ '9' then some (c.toNat - 48)
  else if 'a' ≤ c ∧ c ≤ 'z' then some (c.toNat - 87)
  else if 'A' ≤ c ∧ c ≤ 'Z' then some (c.toNat - 55)
  else none

/-- The value of a digit in a base. -/
def digit? (base : Nat) (c : Char) : Option Nat := (digitValue? c).filter (· < base)

/-- Takes out the underscores, each of which has to stand between two digits; `afterDigit` says
whether the character before was one. -/
def withoutUnderscores (isDigit : Char → Bool) (afterDigit : Bool) :
    List Char → Option (List Char)
  | [] => some []
  | c :: rest =>
    if c = '_' then
      if afterDigit && rest.head?.any isDigit then withoutUnderscores isDigit false rest else none
    else (withoutUnderscores isDigit (isDigit c) rest).map (c :: ·)

/-- The number that digits of a base spell, most significant first. -/
def ofDigits (base : Nat) (digits : List Nat) : Nat :=
  digits.foldl (fun n d => base * n + d) 0

end Chip8.Numeral
