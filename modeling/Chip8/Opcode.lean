/-!
# Opcodes

An opcode is a sixteen bit word.  Its four hexadecimal digits are `f x y n`: the family `f` and
three operand digits, which also read as the byte `kk` (the digits `y n`) and the address `nnn`
(the digits `x y n`).  The family fixes the operation, except that the families `0`, `8`, `E` and
`F` look at further digits and leave some words without a meaning.  The zero word ends a program.
-/
namespace Chip8

/-- A sixteen bit instruction word. -/
structure Opcode where
  word : UInt16
  deriving DecidableEq, Repr

/-- What an instruction does, its operands apart. -/
inductive Operation where
  | halt | clearScreen | ret | jump | call
  | skipIfByte | skipUnlessByte | skipIfEqual
  | loadByte | addByte
  | copy | or | and | xor | add | sub | shiftRight | subFrom | shiftLeft
  | skipUnlessEqual
  | loadIndex | jumpOffset | random | draw
  | skipIfPressed | skipUnlessPressed
  | readDelay | awaitKey | setDelay | setSound
  | addIndex | loadGlyph | storeDecimal | storeRegisters | loadRegisters
  | unknown
  deriving DecidableEq, Repr

namespace Operation

/-- Every operation, in the order of the words it stands for; `unknown` comes last. -/
def all : List Operation :=
  [.halt, .clearScreen, .ret, .jump, .call, .skipIfByte, .skipUnlessByte, .skipIfEqual,
   .loadByte, .addByte, .copy, .or, .and, .xor, .add, .sub, .shiftRight, .subFrom, .shiftLeft,
   .skipUnlessEqual, .loadIndex, .jumpOffset, .random, .draw, .skipIfPressed, .skipUnlessPressed,
   .readDelay, .awaitKey, .setDelay, .setSound, .addIndex, .loadGlyph, .storeDecimal,
   .storeRegisters, .loadRegisters, .unknown]

theorem mem_all (o : Operation) : o ∈ all := by
  cases o <;> decide

end Operation

namespace Opcode

/-- The low sixteen bits of an integer. -/
def ofInt (n : Int) : Opcode := ⟨UInt16.ofInt n⟩

/-- The word with the given high and low byte. -/
def ofBytes (high low : UInt8) : Opcode := ⟨UInt16.ofNat (high.toNat * 256 + low.toNat)⟩

/-- The word as a number below `65536`. -/
def value (w : Opcode) : Nat := w.word.toNat

/-- The first digit. -/
def family (w : Opcode) : Nat := w.value / 4096

/-- The second digit, which names a register. -/
def x (w : Opcode) : Fin 16 := ⟨w.value / 256 % 16, Nat.mod_lt _ (by decide)⟩

/-- The third digit, which names a register. -/
def y (w : Opcode) : Fin 16 := ⟨w.value / 16 % 16, Nat.mod_lt _ (by decide)⟩

/-- The last digit. -/
def n (w : Opcode) : Fin 16 := ⟨w.value % 16, Nat.mod_lt _ (by decide)⟩

/-- The low byte. -/
def kk (w : Opcode) : UInt8 := UInt8.ofNat (w.value % 256)

/-- The low twelve bits, an address. -/
def nnn (w : Opcode) : Nat := w.value % 4096

/-- The operation that a word stands for. -/
def operation (w : Opcode) : Operation :=
  match w.family with
  | 0x0 =>
    match w.value with
    | 0x0000 => .halt
    | 0x00E0 => .clearScreen
    | 0x00EE => .ret
    | _ => .unknown
  | 0x1 => .jump
  | 0x2 => .call
  | 0x3 => .skipIfByte
  | 0x4 => .skipUnlessByte
  | 0x5 => .skipIfEqual
  | 0x6 => .loadByte
  | 0x7 => .addByte
  | 0x8 =>
    match w.n.val with
    | 0x0 => .copy
    | 0x1 => .or
    | 0x2 => .and
    | 0x3 => .xor
    | 0x4 => .add
    | 0x5 => .sub
    | 0x6 => .shiftRight
    | 0x7 => .subFrom
    | 0xE => .shiftLeft
    | _ => .unknown
  | 0x9 => .skipUnlessEqual
  | 0xA => .loadIndex
  | 0xB => .jumpOffset
  | 0xC => .random
  | 0xD => .draw
  | 0xE =>
    match w.value % 256 with
    | 0x9E => .skipIfPressed
    | 0xA1 => .skipUnlessPressed
    | _ => .unknown
  | 0xF =>
    match w.value % 256 with
    | 0x07 => .readDelay
    | 0x0A => .awaitKey
    | 0x15 => .setDelay
    | 0x18 => .setSound
    | 0x1E => .addIndex
    | 0x29 => .loadGlyph
    | 0x33 => .storeDecimal
    | 0x55 => .storeRegisters
    | 0x65 => .loadRegisters
    | _ => .unknown
  | _ => .unknown

theorem value_lt (w : Opcode) : w.value < 65536 := w.word.toNat_lt

theorem value_ofBytes (high low : UInt8) :
    (ofBytes high low).value = high.toNat * 256 + low.toNat := by
  have h := high.toNat_lt
  have l := low.toNat_lt
  simp only [value, ofBytes, UInt16.toNat_ofNat']
  omega

theorem family_lt (w : Opcode) : w.family < 16 := by
  have := w.value_lt
  unfold family
  omega

end Opcode
end Chip8
