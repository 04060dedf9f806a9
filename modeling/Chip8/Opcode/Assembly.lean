import Chip8.Opcode
import Chip8.Text.Hexadecimal
import Chip8.Text.Layout

/-!
# Assembly text

Each operation has a mnemonic, a list of operand forms and a sentence that describes it.  An
operand form is filled from the digits of the word, so the text of an instruction is a function of
its word alone.
-/
namespace Chip8

/-- The shape of one operand of an instruction. -/
inductive Operand where
  /-- the register that the second digit names -/
  | registerX
  /-- the register that the third digit names -/
  | registerY
  /-- the low byte -/
  | byte
  /-- the low twelve bits -/
  | address
  /-- the last digit, in decimal -/
  | height
  /-- the whole word -/
  | word
  /-- the same text in every word -/
  | fixed (text : String)
  deriving DecidableEq, Repr

namespace Operand

/-- The operand of the word `w`. -/
def text (w : Opcode) : Operand → String
  | registerX => "V" ++ Text.hex 1 w.x.val
  | registerY => "V" ++ Text.hex 1 w.y.val
  | byte => "#$" ++ Text.hex 2 w.kk.toNat
  | address => "$" ++ Text.hex 3 w.nnn
  | height => toString w.n.val
  | word => "$" ++ Text.hex 4 w.value
  | fixed s => s

/-- The operand with its field named in braces, with the field's width and base. -/
def pattern : Operand → String
  | registerX => "V\x7bx:X\x7d"
  | registerY => "V\x7by:X\x7d"
  | byte => "#$\x7bkk:02X\x7d"
  | address => "$\x7bnnn:03X\x7d"
  | height => "\x7bn\x7d"
  | word => "$\x7bopcode:04X\x7d"
  | fixed s => s

end Operand

namespace Operation

/-- The mnemonic; a word without a meaning is listed as data. -/
def mnemonic : Operation → String
  | halt => "HALT"
  | clearScreen => "CLS"
  | ret => "RET"
  | jump | jumpOffset => "JP"
  | call => "CALL"
  | skipIfByte | skipIfEqual => "SE"
  | skipUnlessByte | skipUnlessEqual => "SNE"
  | addByte | add | addIndex => "ADD"
  | or => "OR"
  | and => "AND"
  | xor => "XOR"
  | sub => "SUB"
  | shiftRight => "SHR"
  | subFrom => "SUBN"
  | shiftLeft => "SHL"
  | random => "RND"
  | draw => "DRW"
  | skipIfPressed => "SKP"
  | skipUnlessPressed => "SKNP"
  | loadByte | copy | loadIndex | readDelay | awaitKey | setDelay | setSound | loadGlyph
  | storeDecimal | storeRegisters | loadRegisters => "LD"
  | unknown => "DW"

/-- The operands, in the order in which they are written. -/
def operands : Operation → List Operand
  | halt | clearScreen | ret => []
  | jump | call => [.address]
  | skipIfByte | skipUnlessByte | loadByte | addByte | random => [.registerX, .byte]
  | skipIfEqual | skipUnlessEqual | copy | or | and | xor | add | sub | subFrom =>
    [.registerX, .registerY]
  | shiftRight | shiftLeft | skipIfPressed | skipUnlessPressed => [.registerX]
  | loadIndex => [.fixed "I", .address]
  | jumpOffset => [.fixed "V0", .address]
  | draw => [.registerX, .registerY, .height]
  | readDelay => [.registerX, .fixed "DT"]
  | awaitKey => [.registerX, .fixed "K"]
  | setDelay => [.fixed "DT", .registerX]
  | setSound => [.fixed "ST", .registerX]
  | addIndex => [.fixed "I", .registerX]
  | loadGlyph => [.fixed "F", .registerX]
  | storeDecimal => [.fixed "B", .registerX]
  | storeRegisters => [.fixed "[I]", .registerX]
  | loadRegisters => [.registerX, .fixed "[I]"]
  | unknown => [.word]

/-- One line on what the operation does. -/
def description : Operation → String
  | halt => "End-of-program sentinel"
  | clearScreen => "Clear screen"
  | ret => "Return from subroutine"
  | jump => "Jump to location NNN"
  | call => "Call subroutine at NNN"
  | skipIfByte => "Skip next if VX == KK"
  | skipUnlessByte => "Skip next if VX != KK"
  | skipIfEqual => "Skip next if VX == VY"
  | loadByte => "Set VX = KK"
  | addByte => "Set VX = VX + KK (no carry)"
  | copy => "Set VX = VY"
  | or => "Set VX = VX OR VY"
  | and => "Set VX = VX AND VY"
  | xor => "Set VX = VX XOR VY"
  | add => "Set VX = VX + VY, VF = carry"
  | sub => "Set VX = VX - VY, VF = NOT borrow"
  | shiftRight => "Set VX = VX SHR 1, VF = shifted-out bit"
  | subFrom => "Set VX = VY - VX, VF = NOT borrow"
  | shiftLeft => "Set VX = VX SHL 1, VF = shifted-out bit"
  | skipUnlessEqual => "Skip next if VX != VY"
  | loadIndex => "Set I = NNN"
  | jumpOffset => "Jump to location NNN + V0"
  | random => "Set VX = random byte AND KK"
  | draw => "Draw N-byte sprite from I at (VX, VY), VF = collision"
  | skipIfPressed => "Skip next if key VX is down"
  | skipUnlessPressed => "Skip next if key VX is up"
  | readDelay => "Set VX = delay timer"
  | awaitKey => "Wait for a key press, store key in VX"
  | setDelay => "Set delay timer = VX"
  | setSound => "Set sound timer = VX"
  | addIndex => "Set I = I + VX"
  | loadGlyph => "Set I = font glyph for digit VX"
  | storeDecimal => "Store BCD of VX at I, I+1, I+2"
  | storeRegisters => "Store V0..VX at I"
  | loadRegisters => "Read V0..VX from I"
  | unknown => "Unknown opcode"

/-- The operands with their fields named, separated by commas. -/
def operandPattern (o : Operation) : String :=
  ", ".intercalate (o.operands.map Operand.pattern)

end Operation

/-- A mnemonic in a column of five, then its operands; no blank ends the line. -/
def assemblyText (mnemonic operands : String) : String :=
  if operands.isEmpty then mnemonic else Text.padRight 5 mnemonic ++ " " ++ operands

namespace Opcode

/-- The operands of a word, separated by commas. -/
def operandText (w : Opcode) : String :=
  ", ".intercalate (w.operation.operands.map (Operand.text w))

/-- The instruction as it is written in a listing. -/
def text (w : Opcode) : String := assemblyText w.operation.mnemonic w.operandText

end Opcode
end Chip8
