import Chip8.CallStack
import Chip8.Memory

/-!
# Registers

Sixteen byte registers, of which the last also holds flags, the index register, the program
counter and the call stack.  The machine keeps the program counter below `$10000`; a host may set
it to any integer.
-/
namespace Chip8

/-- The register file. -/
structure Registers where
  v : Vector UInt8 16 := Vector.replicate 16 0
  index : UInt16 := 0
  pc : Int := Memory.programStart
  stack : CallStack := {}
  deriving DecidableEq, Repr

namespace Registers

/-- The number of the flag register. -/
def flag : Fin 16 := 15

/-- The value of a register. -/
def get (r : Registers) (x : Fin 16) : UInt8 := r.v[x]

/-- The value of the register `V0`, which a jump may add to its address. -/
def offset (r : Registers) : UInt8 := r.get 0

/-- Sets a register. -/
def set (r : Registers) (x : Fin 16) (value : UInt8) : Registers :=
  { r with v := r.v.set x value }

/-- Sets the register that `i` names, counted from the end when negative, to the low byte of a
value; there may be none. -/
def set? (r : Registers) (i value : Int) : Option Registers :=
  (Sequence.position? 16 i).map fun x => r.set x (UInt8.ofInt value)

/-- Sets the index register to the low sixteen bits of a value. -/
def setIndex (r : Registers) (value : Int) : Registers :=
  { r with index := UInt16.ofInt value }

/-- Moves the program counter past `count` instructions. -/
def advance (r : Registers) (count : Int) : Registers :=
  { r with pc := (r.pc + 2 * count) % 65536 }

/-- Sets the registers from the first on. -/
def setFrom (v : Vector UInt8 16) (i : Nat) : List UInt8 → Vector UInt8 16
  | [] => v
  | b :: rest => setFrom (v.setIfInBounds i b) (i + 1) rest

/-- The registers `V0` to `VX`. -/
def upTo (r : Registers) (x : Fin 16) : List UInt8 := r.v.toList.take (x.val + 1)

/-- All registers on one line. -/
def text (r : Registers) : String :=
  let bytes := (List.finRange 16).map fun i =>
    "V" ++ Text.hex 1 i.val ++ "=" ++ Text.hex 2 (r.get i).toNat
  "PC=" ++ Text.hex 4 r.pc ++ " I=" ++ Text.hex 4 r.index.toNat ++ " SP=" ++ Text.hex 1 r.stack.size
    ++ " " ++ " ".intercalate bytes

end Registers
end Chip8
