import Chip8.Input
import Chip8.Random
import Chip8.Registers
import Chip8.Screen
import Chip8.Timers

/-!
# The machine

All parts of the machine in one state, and what a host may do to it between two steps: load a
program, set breakpoints, switch the trace on and off, and reset.
-/
namespace Chip8

/-- One line of the trace. -/
inductive TraceLine where
  | executed (pc : Int) (w : Opcode)
  | failed (v : Violation)
  deriving DecidableEq, Repr

def TraceLine.text : TraceLine → String
  | executed pc w => "$" ++ Text.hex 3 pc ++ ": " ++ Text.hex 4 w.value ++ "  " ++ w.text
  | failed v => "  ERROR: " ++ v.message

/-- The state of the machine.  `waiting` names the register that waits for a key, `fault` is the
fault at which the machine has stopped, and `program` is the image that a reset loads again. -/
structure Machine where
  registers : Registers := {}
  memory : Memory := .initial
  screen : Screen := .blank
  timers : Timers := {}
  input : Input := .keypad {}
  random : RandomSource := .seeded 0
  waiting : Option (Fin 16) := none
  steps : Nat := 0
  fault : Option Outcome := none
  program : List UInt8 := []
  breakpoints : List UInt16 := []
  tracing : Bool := false
  trace : Array TraceLine := #[]

namespace Machine

/-- Loads a program image; one that is too large changes nothing. -/
def load (m : Machine) (image : List UInt8) : Except ImageTooLarge Machine :=
  match m.memory.load image with
  | .ok memory => .ok { m with memory, program := image }
  | .error e => .error e

/-- What is reported when an image is loaded. -/
def loadNotices (image : List UInt8) : List Notice := [.programLoaded image.length]

/-- Memory with the glyphs and a program in it. -/
def freshMemory (image : List UInt8) : Memory :=
  match Memory.initial.load image with
  | .ok memory => memory
  | .error _ => .initial

/-- The machine as if newly switched on, with the last program loaded again.  The random source,
the breakpoints and the trace switch stay. -/
def reset (m : Machine) : Machine :=
  { m with
    registers := {}
    memory := freshMemory m.program
    screen := .blank
    timers := {}
    input := m.input.reset
    waiting := none
    steps := 0
    fault := none
    trace := #[] }

/-- What is reported when the machine is reset. -/
def resetNotices (m : Machine) : List Notice :=
  (if m.program.isEmpty then [] else loadNotices m.program) ++ [.machineReset]

/-- Adds a breakpoint at the low sixteen bits of an address. -/
def addBreakpoint (m : Machine) (address : Int) : Machine :=
  let a := UInt16.ofInt address
  if m.breakpoints.contains a then m else { m with breakpoints := a :: m.breakpoints }

/-- Removes the breakpoint at the low sixteen bits of an address. -/
def removeBreakpoint (m : Machine) (address : Int) : Machine :=
  { m with breakpoints := m.breakpoints.filter (· ≠ UInt16.ofInt address) }

/-- Removes every breakpoint. -/
def clearBreakpoints (m : Machine) : Machine := { m with breakpoints := [] }

/-- Whether the program counter is at a breakpoint. -/
def atBreakpoint (m : Machine) : Bool :=
  m.breakpoints.any fun a => (a.toNat : Int) = m.registers.pc

/-- The recorded trace, one line each. -/
def traceLines (m : Machine) : List String := m.trace.toList.map TraceLine.text

/-- Adds a line to the trace if the trace is switched on. -/
def record (m : Machine) (line : TraceLine) : Machine :=
  if m.tracing then { m with trace := m.trace.push line } else m

end Machine
end Chip8
