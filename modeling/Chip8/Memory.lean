import Chip8.Numeral.Integer
import Chip8.Sequence
import Chip8.Text.Hexadecimal
import Chip8.Text.Layout

/-!
# Memory

The store has 4096 bytes.  The glyphs of the sixteen hexadecimal digits stand at its start, and
programs are loaded at `$200`.  Addresses may be any integers: an access is checked against the
whole stretch it names before a byte is read or written, and a refused access changes nothing.

A stretch of negative length passes the check when its end does; its borders are then taken as
positions counted from the end of the store.  A refusal names the length of the stretch; a length
that has too many digits for that is refused for its digits instead.
-/
namespace Chip8

/-- An access to a stretch of addresses that does not lie within memory. -/
structure BoundsError where
  address : Int
  length : Int
  deriving DecidableEq, Repr

def BoundsError.message (e : BoundsError) : String :=
  "Memory access out of range: $" ++ Text.hex 4 e.address
    ++ (if e.length = 1 then "" else " (+" ++ toString e.length ++ " bytes)")

/-- Why a stretch of arbitrary length is not read. -/
inductive AccessError where
  | bounds (e : BoundsError)
  /-- the length of a refused access has too many digits -/
  | unwritable
  deriving DecidableEq, Repr

def AccessError.message : AccessError → String
  | bounds e => e.message
  | unwritable => Numeral.unwritable

/-- A refusal whose message has to be written first. -/
def BoundsError.told (e : BoundsError) : AccessError :=
  if Numeral.writable e.length then .bounds e else .unwritable

/-- A program image that does not fit above `$200`. -/
structure ImageTooLarge where
  size : Nat
  deriving DecidableEq, Repr

namespace Memory

/-- The number of bytes in memory. -/
def size : Nat := 4096

/-- Where programs are loaded. -/
def programStart : Nat := 0x200

/-- The greatest size of a program. -/
def programCapacity : Nat := size - programStart

/-- Where the glyphs start, and the number of bytes in each. -/
def fontStart : Nat := 0
def glyphSize : Nat := 5

/-- The glyphs of the digits `0` to `F`: five rows each, the leftmost point in the highest bit. -/
def font : List UInt8 := [
  0xF0, 0x90, 0x90, 0x90, 0xF0,
  0x20, 0x60, 0x20, 0x20, 0x70,
  0xF0, 0x10, 0xF0, 0x80, 0xF0,
  0xF0, 0x10, 0xF0, 0x10, 0xF0,
  0x90, 0x90, 0xF0, 0x10, 0x10,
  0xF0, 0x80, 0xF0, 0x10, 0xF0,
  0xF0, 0x80, 0xF0, 0x90, 0xF0,
  0xF0, 0x10, 0x20, 0x40, 0x40,
  0xF0, 0x90, 0xF0, 0x90, 0xF0,
  0xF0, 0x90, 0xF0, 0x10, 0xF0,
  0xF0, 0x90, 0xF0, 0x90, 0x90,
  0xE0, 0x90, 0xE0, 0x90, 0xE0,
  0xF0, 0x80, 0x80, 0x80, 0xF0,
  0xE0, 0x90, 0x90, 0x90, 0xE0,
  0xF0, 0x80, 0xF0, 0x80, 0xF0,
  0xF0, 0x80, 0xF0, 0x80, 0x80]

end Memory

def ImageTooLarge.message (e : ImageTooLarge) : String :=
  "Program image is " ++ toString e.size ++ " bytes; only " ++ toString Memory.programCapacity
    ++ " bytes fit at $200"

/-- The bytes of the machine. -/
structure Memory where
  cells : Vector UInt8 Memory.size
  deriving DecidableEq, Repr

namespace Memory

/-- Whether a stretch of addresses lies within memory. -/
def inBounds (address length : Int) : Bool := 0 ≤ address && address + length ≤ size

/-- Stores bytes one after the other; those that would lie beyond the end are dropped. -/
def store (cells : Vector UInt8 size) (start : Nat) : List UInt8 → Vector UInt8 size
  | [] => cells
  | b :: rest => store (cells.setIfInBounds start b) (start + 1) rest

/-- The same memory with the glyphs in their place. -/
def withFont (m : Memory) : Memory := ⟨store m.cells fontStart font⟩

/-- Memory as it is when the machine is switched on: the glyphs, and zeros. -/
def initial : Memory := withFont ⟨Vector.replicate size 0⟩

/-- Reads one byte. -/
def read (m : Memory) (address : Int) : Except BoundsError UInt8 :=
  if h : 0 ≤ address ∧ address + 1 ≤ (size : Int) then
    have : address.toNat < size := by omega
    .ok m.cells[address.toNat]
  else .error ⟨address, 1⟩

/-- Writes one byte. -/
def write (m : Memory) (address : Int) (value : UInt8) : Except BoundsError Memory :=
  if inBounds address 1 then .ok ⟨m.cells.setIfInBounds address.toNat value⟩
  else .error ⟨address, 1⟩

/-- Reads the two bytes of a word, the high one first. -/
def readPair (m : Memory) (address : Int) : Except BoundsError (UInt8 × UInt8) :=
  if h : 0 ≤ address ∧ address + 2 ≤ (size : Int) then
    have : address.toNat < size := by omega
    have : address.toNat + 1 < size := by omega
    .ok (m.cells[address.toNat], m.cells[address.toNat + 1])
  else .error ⟨address, 2⟩

/-- The bytes between two borders. -/
def between (m : Memory) (start stop : Int) : List UInt8 :=
  (m.cells.toArray.extract (Sequence.border size start) (Sequence.border size stop)).toList

/-- Reads a stretch of bytes for an instruction, whose length can always be written. -/
def readStretch (m : Memory) (address length : Int) : Except BoundsError (List UInt8) :=
  if inBounds address length then .ok (m.between address (address + length))
  else .error ⟨address, length⟩

/-- Reads a stretch of any length. -/
def readBlock (m : Memory) (address length : Int) : Except AccessError (List UInt8) :=
  (m.readStretch address length).mapError BoundsError.told

/-- Writes a stretch of bytes. -/
def writeBlock (m : Memory) (address : Int) (data : List UInt8) : Except BoundsError Memory :=
  if inBounds address data.length then .ok ⟨store m.cells address.toNat data⟩
  else .error ⟨address, data.length⟩

/-- Copies a program to `$200`. -/
def load (m : Memory) (image : List UInt8) : Except ImageTooLarge Memory :=
  if image.length ≤ programCapacity then .ok ⟨store m.cells programStart image⟩
  else .error ⟨image.length⟩

/-- The bytes from one address to another, both included. -/
def snapshot (m : Memory) (first last : Int) : Except AccessError (List UInt8) :=
  if inBounds first (last - first + 1) then .ok (m.between first (last + 1))
  else .error (BoundsError.told ⟨first, last - first + 1⟩)

/-- The word at an address. -/
def wordOf (pair : UInt8 × UInt8) : Nat := pair.1.toNat * 256 + pair.2.toNat

/-- Every stored byte is one of the written ones or an old one. -/
theorem getElem_store (cells : Vector UInt8 size) (start : Nat) (data : List UInt8) (i : Nat)
    (h : i < size) :
    (store cells start data)[i] =
      if hi : start ≤ i ∧ i - start < data.length then data[i - start] else cells[i] := by
  induction data generalizing cells start with
  | nil => simp [store]
  | cons b rest ih =>
    rw [store, ih]
    by_cases h1 : start + 1 ≤ i ∧ i - (start + 1) < rest.length
    · have h2 : start ≤ i ∧ i - start < (b :: rest).length := by
        simp only [List.length_cons]
        omega
      have h3 : i - start = (i - (start + 1)) + 1 := by omega
      rw [dif_pos h1, dif_pos h2]
      simp [h3]
    · rw [dif_neg h1]
      by_cases h2 : start = i
      · subst h2
        simp
      · have h3 : ¬ (start ≤ i ∧ i - start < (b :: rest).length) := by
          simp only [List.length_cons]
          omega
        rw [dif_neg h3]
        simp [h2]

end Memory
end Chip8
