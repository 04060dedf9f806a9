import Chip8.Memory

/-!
# Memory dumps

A dump shows sixteen bytes a line: the address, the bytes in hexadecimal, and the bytes as text
with a point for each that is no printable ASCII character.
-/
namespace Chip8.Memory

/-- A byte as a character. -/
def visible (b : UInt8) : Char :=
  if 0x20 ≤ b ∧ b < 0x7F then Char.ofNat b.toNat else '.'

/-- One line of a dump. -/
def dumpLine (address : Int) (row : List UInt8) : String :=
  Text.hex 3 address ++ "  "
    ++ Text.padRight 47 (" ".intercalate (row.map fun b => String.ofList (Text.hexByte b)))
    ++ "  " ++ String.ofList (row.map visible)

/-- The number of lines from `start` to `stop`. -/
def dumpCount (start stop : Int) : Nat := ((stop - start + 15) / 16).toNat

/-- The lines that show `length` bytes from `start`, as far as memory reaches. -/
def dump (m : Memory) (start length : Int) : List String :=
  let stop := min (start + length) size
  (List.range (dumpCount start stop)).map fun (i : Nat) =>
    let address := start + 16 * (i : Int)
    dumpLine address (m.between address (min (address + 16) stop))

end Chip8.Memory
