import Chip8.Proofs.Machine.Footprint
import Chip8.Proofs.Registers

/-!
# What an instruction writes

The registers that an instruction sets, the addresses that it stores to, and the timer that it sets.
Every other register, every other byte of memory and the other timer keep their values.
-/
namespace Chip8

/-- Whether an instruction may set a register. -/
def Opcode.Sets (w : Opcode) (i : Fin 16) : Prop :=
  match w.operation with
  | .loadByte | .addByte | .copy | .or | .and | .xor | .random | .readDelay => i = w.x
  | .add | .sub | .subFrom | .shiftRight | .shiftLeft => i = w.x ∨ i = Registers.flag
  | .draw => i = Registers.flag
  | .loadRegisters => i ≤ w.x
  | _ => False

namespace Machine

/-- The addresses that an instruction stores to. -/
def stored (m : Machine) (w : Opcode) : List Int :=
  match w.operation with
  | .storeDecimal => Memory.stretch m.registers.index.toNat 3
  | .storeRegisters => Memory.stretch m.registers.index.toNat (w.x.val + 1)
  | _ => []

section Run
variable {m after : Machine} {w : Opcode}

/-- The flag is written last, so it stands in the flag register whatever the result's register is. -/
theorem get_setFlagged (x i : Fin 16) (r : UInt8 × Bool) :
    (m.setFlagged x r).registers.get i =
      if i = Registers.flag then Arithmetic.flagByte r.2
      else if i = x then r.1 else m.registers.get i := by
  simp only [setFlagged, setRegister, Registers.get_set]

/-- A register that an instruction does not set keeps its value. -/
theorem execute_registers (run : (execute w).run m = .ok () after) (i : Fin 16)
    (unset : ¬ w.Sets i) : after.registers.get i = m.registers.get i := by
  unfold Opcode.Sets at unset
  cases op : w.operation
  case call =>
    obtain ⟨stack, _, rfl⟩ := execute_called op run
    rfl
  case ret =>
    obtain ⟨address, stack, _, rfl⟩ := execute_returned op run
    rfl
  case draw =>
    rw [op] at unset
    obtain ⟨rows, _, rfl⟩ := execute_drawn op run
    exact (Registers.get_set _ _ _ _).trans (if_neg unset)
  case storeDecimal =>
    obtain ⟨memory, _, rfl⟩ := execute_storedDecimal op run
    rfl
  case storeRegisters =>
    obtain ⟨memory, _, rfl⟩ := execute_storedRegisters op run
    rfl
  case loadRegisters =>
    rw [op] at unset
    obtain ⟨data, read, rfl⟩ := execute_loadedRegisters op run
    have length := Memory.length_readStretch _ _ _ _ read
    have beyond : 0 + data.length ≤ i.val := by
      rw [length]
      omega
    exact Registers.getElem_setFrom_other _ 0 data i.val i.isLt (.inr beyond)
  all_goals
    unfold execute at run
    rw [EStateM.run_bind, EStateM.run_get, op] at run
    injection run with _ left
    subst left
    rw [op] at unset
  case loadByte | addByte | copy | or | and | xor | readDelay | random =>
    exact (Registers.get_set _ _ _ _).trans (if_neg unset)
  case add | sub | subFrom | shiftRight | shiftLeft =>
    obtain ⟨result, flag⟩ := not_or.mp unset
    exact (get_setFlagged _ _ _).trans ((if_neg flag).trans (if_neg result))
  all_goals rfl

/-- An instruction that sets a timer sets it to a register, and leaves the other one alone. -/
theorem execute_timers (run : (execute w).run m = .ok () after) :
    after.timers =
      match w.operation with
      | .setDelay => { m.timers with delay := m.registers.get w.x }
      | .setSound => { m.timers with sound := m.registers.get w.x }
      | _ => m.timers := by
  cases op : w.operation
  case setDelay | setSound =>
    unfold execute at run
    rw [EStateM.run_bind, EStateM.run_get, op] at run
    injection run with _ left
    subst left
    simp only [next, Timers.setDelay, Timers.setSound, ofInt8_toNat]
  all_goals exact (execute_footprint run).timers (by simp [op])

theorem execute_delay (run : (execute w).run m = .ok () after) (other : w.operation ≠ .setDelay) :
    after.timers.delay = m.timers.delay := by
  rw [execute_timers run]
  split
  · next op => exact absurd op other
  · rfl
  · rfl

theorem execute_sound (run : (execute w).run m = .ok () after) (other : w.operation ≠ .setSound) :
    after.timers.sound = m.timers.sound := by
  rw [execute_timers run]
  split
  · rfl
  · next op => exact absurd op other
  · rfl

/-- A byte of memory that an instruction does not store to keeps its value. -/
theorem execute_memory (run : (execute w).run m = .ok () after) (a : Int) (other : a ∉ m.stored w) :
    after.memory.byte? a = m.memory.byte? a := by
  unfold stored at other
  by_cases decimal : w.operation = .storeDecimal
  · rw [decimal] at other
    obtain ⟨memory, written, rfl⟩ := execute_storedDecimal decimal run
    exact (Memory.byte?_writeBlock _ _ _ _ written a).trans (if_neg other)
  · by_cases registers : w.operation = .storeRegisters
    · rw [registers] at other
      obtain ⟨memory, written, rfl⟩ := execute_storedRegisters registers run
      rw [← length_upTo m.registers w.x] at other
      exact (Memory.byte?_writeBlock _ _ _ _ written a).trans (if_neg other)
    · rw [(execute_footprint run).memory (by simp [decimal, registers])]

end Run

end Machine
end Chip8
