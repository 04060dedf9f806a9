/-!
# Hexadecimal text

Numbers are written with upper-case digits, filled with zeros up to a least width and never cut.
The sign of a negative number takes one place of the width.  A byte always has two digits.
-/
namespace Chip8.Text

/-- The upper-case digit for a number below sixteen. -/
def hexDigit (n : Nat) : Char :=
  if n < 10 then Char.ofNat (48 + n) else Char.ofNat (55 + n)

/-- The digits of `n`, most significant first; zero has one digit. -/
def hexDigits (n : Nat) : List Char :=
  if n < 16 then [hexDigit n] else hexDigits (n / 16) ++ [hexDigit (n % 16)]
termination_by n
decreasing_by omega

/-- `n` in hexadecimal, at least `width` characters wide. -/
def hex (width : Nat) (n : Int) : String :=
  let sign := if n < 0 then ['-'] else []
  let digits := hexDigits n.natAbs
  String.ofList (sign ++ List.replicate (width - sign.length - digits.length) '0' ++ digits)

/-- The two digits of a byte. -/
def hexByte (b : UInt8) : List Char :=
  [hexDigit (b.toNat / 16), hexDigit (b.toNat % 16)]

/-- The bytes of a block, two digits each, without a separator. -/
def hexBytes (bytes : List UInt8) : String :=
  String.ofList (bytes.flatMap hexByte)

@[simp] theorem length_hexByte (b : UInt8) : (hexByte b).length = 2 := rfl

end Chip8.Text
