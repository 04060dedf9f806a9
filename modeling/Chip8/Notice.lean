import Chip8.Opcode.Assembly
import Chip8.Outcome
import Chip8.Reading

/-!
# Notices

What the parts of the machine report while they work.  A notice names its event; its level, its
origin and its text are functions of the event.
-/
namespace Chip8

/-- How much a notice matters. -/
inductive Level where
  | debug | info | warning | error
  deriving DecidableEq, Repr

namespace Level

def number : Level → Int
  | debug => 10
  | info => 20
  | warning => 30
  | error => 40

def name : Level → String
  | debug => "DEBUG"
  | info => "INFO"
  | warning => "WARNING"
  | error => "ERROR"

end Level

/-- The part of the machine that reports. -/
inductive Origin where
  | engine | memory | timers | keypad | pacing
  deriving DecidableEq, Repr

def Origin.name : Origin → String
  | engine => "chip8_vm.emu"
  | memory => "chip8_vm.mem.memory"
  | timers => "chip8_vm.periph.timer"
  | keypad => "chip8_vm.periph.keypad"
  | pacing => "chip8_vm.driver"

/-- Why a run of the machine stopped. -/
inductive StopReason where
  | halt | fault | breakpoint | limit | cancelled
  deriving DecidableEq, Repr

def StopReason.text : StopReason → String
  | halt => "HALT"
  | fault => "FAULT"
  | breakpoint => "BREAK"
  | limit => "LIMIT"
  | cancelled => "CANCELLED"

/-- An event that is worth reporting. -/
inductive Notice where
  | imageRead (path : String) (size : Nat)
  | programLoaded (size : Nat)
  | machineReset
  | elapsedIgnored (reading : Reading)
  | keyDown (key : Fin 16)
  | executing (pc : Int) (w : Opcode)
  | unknownOpcode (pc : Int) (w : Opcode)
  | programEnded (pc : Int)
  | faulted (detail : String)
  | awaitingKey (register : Fin 16)
  | keyStored (key : Int) (register : Fin 16)
  | runStopped (reason : StopReason) (steps : Nat) (outcome : Outcome)

namespace Notice

def level : Notice → Level
  | keyDown .. | executing .. | awaitingKey .. | keyStored .. => .debug
  | imageRead .. | programLoaded .. | machineReset | programEnded .. | runStopped .. => .info
  | elapsedIgnored .. | unknownOpcode .. => .warning
  | faulted .. => .error

def origin : Notice → Origin
  | programLoaded .. => .memory
  | elapsedIgnored .. => .timers
  | keyDown .. => .keypad
  | runStopped .. => .pacing
  | _ => .engine

def message : Notice → String
  | imageRead path size => "Read ROM " ++ path ++ " (" ++ toString size ++ " bytes)"
  | programLoaded size =>
    "Loaded " ++ toString size ++ "-byte program at $" ++ Text.hex 3 Memory.programStart
  | machineReset => "Emulator reset"
  | elapsedIgnored reading =>
    "Ignoring invalid elapsed time " ++ reading.shown ++ " (clamped to 0)"
  | keyDown key => "Key " ++ Text.hex 1 key.val ++ " down"
  | executing pc w =>
    Text.hex 3 pc ++ " | " ++ Text.hex 4 w.value ++ " | " ++ w.operation.description
  | unknownOpcode pc w =>
    "Unknown opcode $" ++ Text.hex 4 w.value ++ " at $" ++ Text.hex 3 pc ++ " (skipped)"
  | programEnded pc => "Program hit end at $" ++ Text.hex 3 pc
  | faulted detail => "Error on instruction at " ++ detail
  | awaitingKey register => "Waiting for key press into V" ++ Text.hex 1 register.val
  | keyStored key register =>
    "Key " ++ Text.hex 1 key ++ " pressed, stored in V" ++ Text.hex 1 register.val
  | runStopped reason steps outcome =>
    "Run stopped: " ++ reason.text ++ " after " ++ toString steps ++ " steps (" ++ outcome.text
      ++ ")"

end Notice
end Chip8
