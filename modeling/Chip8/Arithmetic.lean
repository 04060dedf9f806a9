/-!
# Register arithmetic

Results are bytes.  An operation that sets the flag register gives the flag beside its result:
the carry of a sum, the absent borrow of a difference, the bit that a shift drops.  Operands may be
any integers, of which a register holds those below 256.
-/
namespace Chip8.Arithmetic

/-- The flag register's byte for a truth value. -/
def flagByte (b : Bool) : UInt8 := if b then 1 else 0

/-- The sum, flagged when it exceeds a byte. -/
def add (a b : Int) : UInt8 × Bool := (UInt8.ofInt (a + b), 255 < a + b)

/-- The difference, flagged when the first operand is the greater one. -/
def sub (a b : Int) : UInt8 × Bool := (UInt8.ofInt (a - b), b < a)

/-- Half of the operand, flagged when it is odd. -/
def shiftRight (a : Int) : UInt8 × Bool := (UInt8.ofInt (a / 2 % 128), a % 2 = 1)

/-- Twice the operand, flagged when bit seven is set. -/
def shiftLeft (a : Int) : UInt8 × Bool := (UInt8.ofInt (2 * a), a / 128 % 2 = 1)

def or (a b : Int) : UInt8 := UInt8.ofInt a ||| UInt8.ofInt b

def and (a b : Int) : UInt8 := UInt8.ofInt a &&& UInt8.ofInt b

def xor (a b : Int) : UInt8 := UInt8.ofInt a ^^^ UInt8.ofInt b

/-- The hundreds, tens and units of a byte. -/
def decimalDigits (b : UInt8) : List UInt8 := [b / 100, b / 10 % 10, b % 10]

theorem length_decimalDigits (b : UInt8) : (decimalDigits b).length = 3 := rfl

end Chip8.Arithmetic
