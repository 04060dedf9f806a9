import Chip8.Arithmetic
import Chip8.Machine

/-!
# Execution of one instruction

What each operation does to the machine, in the order in which it is done.  A violation breaks an
instruction off where it stands, and what was changed before stays changed; so every handler makes
its check before it writes to a part of the machine.  An instruction with a result and a flag writes
the flag last, so the flag register holds the flag even when it is the operand.
-/
namespace Chip8

/-- What is done to a machine, step by step, with a result.  A violation ends it; the machine then
stays as it was left. -/
abbrev Effect := EStateM Violation Machine

namespace Machine

/-- The machine with one register set. -/
def setRegister (m : Machine) (x : Fin 16) (value : UInt8) : Machine :=
  { m with registers := m.registers.set x value }

/-- The machine with a result in one register and its flag in the flag register. -/
def setFlagged (m : Machine) (x : Fin 16) (r : UInt8 × Bool) : Machine :=
  (m.setRegister x r.1).setRegister Registers.flag (Arithmetic.flagByte r.2)

/-- The machine past the present instruction. -/
def next (m : Machine) : Machine := { m with registers := m.registers.advance 1 }

/-- The machine past the present instruction, and past the one after it if a condition holds. -/
def skipIf (m : Machine) (condition : Bool) : Machine :=
  { m with registers := m.registers.advance (if condition then 2 else 1) }

/-- The machine at another address. -/
def jump (m : Machine) (address : Int) : Machine :=
  { m with registers := { m.registers with pc := address } }

/-- The machine with a new value in the index register. -/
def pointTo (m : Machine) (address : Int) : Machine :=
  { m with registers := m.registers.setIndex address }

/-- The machine with another call stack. -/
def withStack (m : Machine) (stack : CallStack) : Machine :=
  { m with registers := { m.registers with stack } }

/-- Puts a random byte, of which the bits outside `mask` are cleared, into a register. -/
def randomise (m : Machine) (x : Fin 16) (mask : UInt8) : Machine :=
  let (value, random) := m.random.draw
  { m with random }.setRegister x (UInt8.ofInt value &&& mask)

/-- Forgets the presses so far and waits for the next one. -/
def awaitKey (m : Machine) (x : Fin 16) : Machine :=
  { m with input := m.input.clearEvents, waiting := some x }

/-- Adds an address to the call stack. -/
def pushAddress (address : Int) : Effect Unit := do
  let m ← get
  match m.registers.stack.push address with
  | .ok stack => set (m.withStack stack)
  | .error e => throw (.stack e)

/-- Takes the latest address off the call stack. -/
def popAddress : Effect UInt16 := do
  let m ← get
  match m.registers.stack.pop with
  | .ok (address, stack) =>
    set (m.withStack stack)
    return address
  | .error e => throw (.stack e)

/-- Reads bytes from where the index register points. -/
def readAtIndex (length : Nat) : Effect (List UInt8) := do
  let m ← get
  match m.memory.readStretch m.registers.index.toNat length with
  | .ok data => return data
  | .error e => throw (.memory e)

/-- Writes bytes from where the index register points. -/
def writeAtIndex (data : List UInt8) : Effect Unit := do
  let m ← get
  match m.memory.writeBlock m.registers.index.toNat data with
  | .ok memory => set { m with memory }
  | .error e => throw (.memory e)

/-- Returns to the latest address on the call stack. -/
def ret : Effect Unit := do
  let address ← popAddress
  modify (·.jump address.toNat)

/-- Calls a subroutine; the next instruction is where it returns to. -/
def call (address : Int) : Effect Unit := do
  let m ← get
  pushAddress (m.registers.pc + 2)
  modify (·.jump address)

/-- Draws the sprite that the index register points to at the point that two registers name. -/
def drawSprite (x y height : Fin 16) : Effect Unit := do
  let rows ← readAtIndex height.val
  let m ← get
  let (screen, hit) := m.screen.draw (m.registers.get x).toNat (m.registers.get y).toNat
    (rows.map fun b => (b.toNat : Int))
  set { m with screen }
  modify (·.setRegister Registers.flag (Arithmetic.flagByte hit))

/-- Reads the registers `V0` to `VX` from where the index register points. -/
def loadFromIndex (x : Fin 16) : Effect Unit := do
  let data ← readAtIndex (x.val + 1)
  modify fun m =>
    { m with registers := { m.registers with v := Registers.setFrom m.registers.v 0 data } }

/-- Carries out the instruction `w`, which stands at the program counter. -/
def execute (w : Opcode) : Effect Unit := do
  let m ← get
  let vx := m.registers.get w.x
  let vy := m.registers.get w.y
  let a : Int := vx.toNat
  let b : Int := vy.toNat
  match w.operation with
  | .halt => return
  | .clearScreen => set { m with screen := .blank }.next
  | .ret => ret
  | .jump => set (m.jump w.nnn)
  | .call => call w.nnn
  | .skipIfByte => set (m.skipIf (vx = w.kk))
  | .skipUnlessByte => set (m.skipIf (vx ≠ w.kk))
  | .skipIfEqual => set (m.skipIf (vx = vy))
  | .skipUnlessEqual => set (m.skipIf (vx ≠ vy))
  | .loadByte => set (m.setRegister w.x w.kk).next
  | .addByte => set (m.setRegister w.x (vx + w.kk)).next
  | .copy => set (m.setRegister w.x vy).next
  | .or => set (m.setRegister w.x (Arithmetic.or a b)).next
  | .and => set (m.setRegister w.x (Arithmetic.and a b)).next
  | .xor => set (m.setRegister w.x (Arithmetic.xor a b)).next
  | .add => set (m.setFlagged w.x (Arithmetic.add a b)).next
  | .sub => set (m.setFlagged w.x (Arithmetic.sub a b)).next
  | .subFrom => set (m.setFlagged w.x (Arithmetic.sub b a)).next
  | .shiftRight => set (m.setFlagged w.x (Arithmetic.shiftRight a)).next
  | .shiftLeft => set (m.setFlagged w.x (Arithmetic.shiftLeft a)).next
  | .loadIndex => set (m.pointTo w.nnn).next
  | .jumpOffset => set (m.jump (((w.nnn : Int) + m.registers.offset.toNat) % 65536))
  | .random => set (m.randomise w.x w.kk).next
  | .draw =>
    drawSprite w.x w.y w.n
    modify next
  | .skipIfPressed => set (m.skipIf (m.input.isDown (lowKey a)))
  | .skipUnlessPressed => set (m.skipIf (!m.input.isDown (lowKey a)))
  | .readDelay => set (m.setRegister w.x m.timers.delay).next
  | .awaitKey => set (m.awaitKey w.x)
  | .setDelay => set { m with timers := m.timers.setDelay a }.next
  | .setSound => set { m with timers := m.timers.setSound a }.next
  | .addIndex => set (m.pointTo (m.registers.index.toNat + a)).next
  | .loadGlyph => set (m.pointTo (Memory.fontStart + a % 16 * Memory.glyphSize)).next
  | .storeDecimal =>
    writeAtIndex (Arithmetic.decimalDigits vx)
    modify next
  | .storeRegisters =>
    writeAtIndex (m.registers.upTo w.x)
    modify next
  | .loadRegisters =>
    loadFromIndex w.x
    modify next
  | .unknown => set m.next

/-- What is reported of an instruction that was carried out at `pc`. -/
def executedNotices (pc : Int) (w : Opcode) : List Notice :=
  match w.operation with
  | .awaitKey => [.awaitingKey w.x]
  | .unknown => [.unknownOpcode pc w]
  | _ => []

end Machine
end Chip8
