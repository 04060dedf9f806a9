import Chip8.Numeral.Digits

/-!
# Integers in text

A sign, then digits.  In base sixteen the digits may follow `0x`, and an underscore may follow
that.  Hexadecimal numerals may have any length.  A decimal one that is too long is not read, and
a complaint that would have to write one is replaced by a complaint about its digits.
-/
namespace Chip8.Numeral

/-- The greatest number of digits that a decimal numeral may have. -/
def maxDecimalDigits : Nat := 4300

/-- Whether a number has few enough digits to be written in decimal. -/
def writable (n : Int) : Bool := (toString n.natAbs).length ≤ maxDecimalDigits

/-- The complaint about a number that has too many digits to be written. -/
def unwritable : String :=
  "Exceeds the limit (" ++ toString maxDecimalDigits ++ " digits) for integer string conversion; "
    ++ "use sys.set_int_max_str_digits() to increase the limit"

/-- A complaint that ends with a number, or else the one about its digits. -/
def naming (complaint : String) (n : Int) : String :=
  if writable n then complaint ++ toString n else unwritable

/-- The sign in front, if any, and the rest. -/
def splitSign : List Char → Bool × List Char
  | '-' :: rest => (true, rest)
  | '+' :: rest => (false, rest)
  | s => (false, s)

/-- The rest after the mark of base sixteen, if there is one. -/
def dropMark : List Char → List Char
  | '0' :: 'x' :: '_' :: rest => rest
  | '0' :: 'X' :: '_' :: rest => rest
  | '0' :: 'x' :: rest => rest
  | '0' :: 'X' :: rest => rest
  | s => s

/-- The digits of an unsigned numeral. -/
def digits? (base : Nat) (s : List Char) : Option (List Nat) :=
  match withoutUnderscores (fun c => (digit? base c).isSome) false s with
  | some (c :: rest) => (c :: rest).mapM (digit? base)
  | _ => none

/-- The number with a sign. -/
def signed (negative : Bool) (n : Nat) : Int := if negative then -(n : Int) else n

/-- Reads a hexadecimal integer. -/
def hexadecimal? (s : String) : Option Int :=
  let (negative, rest) := splitSign (body s)
  (digits? 16 (dropMark rest)).map fun ds => signed negative (ofDigits 16 ds)

/-- Reads a decimal integer. -/
def decimal? (s : String) : Option Int :=
  let (negative, rest) := splitSign (body s)
  match digits? 10 rest with
  | some ds =>
    if ds.length ≤ maxDecimalDigits then some (signed negative (ofDigits 10 ds)) else none
  | none => none

end Chip8.Numeral
