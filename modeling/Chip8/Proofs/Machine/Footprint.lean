import Chip8.Proofs.Machine.Instruction

/-!
# What an instruction leaves alone

Each part of the machine is changed by the instructions that name it and by no other one.  What is
pending of a tick, and the ticks so far, are changed by none.
-/
namespace Chip8.Machine

/-- The parts of a machine that an instruction, carried out, has left as they were. -/
structure Footprint (m : Machine) (w : Opcode) (after : Machine) : Prop where
  index : w.operation ∉ [.loadIndex, .addIndex, .loadGlyph] →
    after.registers.index = m.registers.index
  stack : w.operation ∉ [.call, .ret] → after.registers.stack = m.registers.stack
  memory : w.operation ∉ [.storeDecimal, .storeRegisters] → after.memory = m.memory
  screen : w.operation ∉ [.clearScreen, .draw] → after.screen = m.screen
  timers : w.operation ∉ [.setDelay, .setSound] → after.timers = m.timers
  clock : after.timers.pendingUnits = m.timers.pendingUnits ∧ after.timers.ticks = m.timers.ticks
  input : w.operation ≠ .awaitKey → after.input = m.input
  waiting : w.operation ≠ .awaitKey → after.waiting = m.waiting
  random : w.operation ≠ .random → after.random = m.random

section Run
variable {m after : Machine} {w : Opcode}

/-- An instruction that is carried out has met no obstacle. -/
theorem execute_free (run : (execute w).run m = .ok () after) (v : Violation) :
    ¬ Obstacle m w v := by
  intro obstacle
  rw [execute_refused m w v obstacle] at run
  cases run

/-- A block that is written before the machine goes on has found room in memory. -/
theorem run_written {data : List UInt8}
    (run : (writeAtIndex data >>= fun _ => modify next).run m = .ok () after) :
    ∃ memory, m.memory.writeBlock m.registers.index.toNat data = .ok memory ∧
      after = { m with memory }.next := by
  rw [EStateM.run_bind, writeAtIndex_run] at run
  cases written : m.memory.writeBlock m.registers.index.toNat data with
  | error e =>
    rw [written] at run
    cases run
  | ok memory =>
    rw [written] at run
    injection run with _ stored
    exact ⟨memory, rfl, stored.symm⟩

/-- A call that is carried out has found room for its return address. -/
theorem execute_called (op : w.operation = .call) (run : (execute w).run m = .ok () after) :
    ∃ stack, m.registers.stack.push (m.registers.pc + 2) = .ok stack ∧
      after = (m.withStack stack).jump w.nnn := by
  rw [execute_call m w op, EStateM.run_bind, pushAddress_run] at run
  cases pushed : m.registers.stack.push (m.registers.pc + 2) with
  | error e =>
    rw [pushed] at run
    cases run
  | ok stack =>
    rw [pushed] at run
    injection run with _ moved
    exact ⟨stack, rfl, moved.symm⟩

/-- A return that is carried out has found an address to go to. -/
theorem execute_returned (op : w.operation = .ret) (run : (execute w).run m = .ok () after) :
    ∃ address stack, m.registers.stack.pop = .ok (address, stack) ∧
      after = (m.withStack stack).jump address.toNat := by
  rw [execute_ret m w op, EStateM.run_bind, popAddress_run] at run
  cases popped : m.registers.stack.pop with
  | error e =>
    rw [popped] at run
    cases run
  | ok entry =>
    obtain ⟨address, stack⟩ := entry
    rw [popped] at run
    injection run with _ moved
    exact ⟨address, stack, rfl, moved.symm⟩

/-- A block that is accessed by an instruction that is carried out lies within memory. -/
theorem execute_inside (run : (execute w).run m = .ok () after) (length : Nat)
    (accessed : blockLength? w = some length) :
    Memory.inBounds m.registers.index.toNat length = true := by
  cases bounds : Memory.inBounds m.registers.index.toNat length with
  | true => rfl
  | false => exact absurd (.block length accessed bounds) (execute_free run _)

/-- A sprite that is drawn has been read from memory. -/
theorem execute_drawn (op : w.operation = .draw) (run : (execute w).run m = .ok () after) :
    ∃ rows, m.memory.readStretch m.registers.index.toNat w.n.val = .ok rows ∧
      after = (m.withSprite w.x w.y rows).next := by
  have inside := execute_inside run w.n.val (by simp [blockLength?, op])
  obtain ⟨rows, read⟩ := readAtIndex_success m w.n.val inside
  rw [execute_draw m w op, run_bind_ok (drawSprite_run m w.x w.y w.n rows read)] at run
  injection run with _ drawn
  exact ⟨rows, (readAtIndex_ok m read).1, drawn.symm⟩

/-- The digits of a register that are stored have found room in memory. -/
theorem execute_storedDecimal (op : w.operation = .storeDecimal)
    (run : (execute w).run m = .ok () after) :
    ∃ memory, m.memory.writeBlock m.registers.index.toNat
        (Arithmetic.decimalDigits (m.registers.get w.x)) = .ok memory ∧
      after = { m with memory }.next := by
  rw [execute_storeDecimal m w op] at run
  exact run_written run

/-- So have the registers that are stored. -/
theorem execute_storedRegisters (op : w.operation = .storeRegisters)
    (run : (execute w).run m = .ok () after) :
    ∃ memory, m.memory.writeBlock m.registers.index.toNat (m.registers.upTo w.x) = .ok memory ∧
      after = { m with memory }.next := by
  rw [execute_storeRegisters m w op] at run
  exact run_written run

/-- Registers that are loaded have been read from memory. -/
theorem execute_loadedRegisters (op : w.operation = .loadRegisters)
    (run : (execute w).run m = .ok () after) :
    ∃ data, m.memory.readStretch m.registers.index.toNat ((w.x.val + 1 : Nat) : Int) = .ok data ∧
      after = (m.withRegisters data).next := by
  have inside := execute_inside run (w.x.val + 1) (by simp [blockLength?, op])
  obtain ⟨data, read⟩ := readAtIndex_success m (w.x.val + 1) inside
  rw [execute_loadRegisters m w op, run_bind_ok (loadFromIndex_run m w.x data read)] at run
  injection run with _ loaded
  exact ⟨data, (readAtIndex_ok m read).1, loaded.symm⟩

/-- Every instruction changes the parts that it names alone. -/
theorem execute_footprint (run : (execute w).run m = .ok () after) : Footprint m w after := by
  cases op : w.operation
  case call =>
    obtain ⟨stack, _, rfl⟩ := execute_called op run
    exact ⟨fun _ => rfl, fun other => absurd op (by simp_all), fun _ => rfl, fun _ => rfl,
      fun _ => rfl, ⟨rfl, rfl⟩, fun _ => rfl, fun _ => rfl, fun _ => rfl⟩
  case ret =>
    obtain ⟨address, stack, _, rfl⟩ := execute_returned op run
    exact ⟨fun _ => rfl, fun other => absurd op (by simp_all), fun _ => rfl, fun _ => rfl,
      fun _ => rfl, ⟨rfl, rfl⟩, fun _ => rfl, fun _ => rfl, fun _ => rfl⟩
  case draw =>
    obtain ⟨rows, _, rfl⟩ := execute_drawn op run
    exact ⟨fun _ => rfl, fun _ => rfl, fun _ => rfl, fun other => absurd op (by simp_all),
      fun _ => rfl, ⟨rfl, rfl⟩, fun _ => rfl, fun _ => rfl, fun _ => rfl⟩
  case storeDecimal =>
    obtain ⟨memory, _, rfl⟩ := execute_storedDecimal op run
    exact ⟨fun _ => rfl, fun _ => rfl, fun other => absurd op (by simp_all), fun _ => rfl,
      fun _ => rfl, ⟨rfl, rfl⟩, fun _ => rfl, fun _ => rfl, fun _ => rfl⟩
  case storeRegisters =>
    obtain ⟨memory, _, rfl⟩ := execute_storedRegisters op run
    exact ⟨fun _ => rfl, fun _ => rfl, fun other => absurd op (by simp_all), fun _ => rfl,
      fun _ => rfl, ⟨rfl, rfl⟩, fun _ => rfl, fun _ => rfl, fun _ => rfl⟩
  case loadRegisters =>
    obtain ⟨data, _, rfl⟩ := execute_loadedRegisters op run
    exact ⟨fun _ => rfl, fun _ => rfl, fun _ => rfl, fun _ => rfl, fun _ => rfl, ⟨rfl, rfl⟩,
      fun _ => rfl, fun _ => rfl, fun _ => rfl⟩
  -- the others are not broken off, and the machine that they leave can be read from them
  all_goals
    unfold execute at run
    rw [EStateM.run_bind, EStateM.run_get, op] at run
    injection run with _ left
    subst left
  case loadIndex | addIndex | loadGlyph =>
    exact ⟨fun other => absurd op (by simp_all), fun _ => rfl, fun _ => rfl, fun _ => rfl,
      fun _ => rfl, ⟨rfl, rfl⟩, fun _ => rfl, fun _ => rfl, fun _ => rfl⟩
  case clearScreen =>
    exact ⟨fun _ => rfl, fun _ => rfl, fun _ => rfl, fun other => absurd op (by simp_all),
      fun _ => rfl, ⟨rfl, rfl⟩, fun _ => rfl, fun _ => rfl, fun _ => rfl⟩
  case setDelay | setSound =>
    exact ⟨fun _ => rfl, fun _ => rfl, fun _ => rfl, fun _ => rfl,
      fun other => absurd op (by simp_all), ⟨rfl, rfl⟩, fun _ => rfl, fun _ => rfl, fun _ => rfl⟩
  case awaitKey =>
    exact ⟨fun _ => rfl, fun _ => rfl, fun _ => rfl, fun _ => rfl, fun _ => rfl, ⟨rfl, rfl⟩,
      fun other => absurd op other, fun other => absurd op other, fun _ => rfl⟩
  case random =>
    exact ⟨fun _ => rfl, fun _ => rfl, fun _ => rfl, fun _ => rfl, fun _ => rfl, ⟨rfl, rfl⟩,
      fun _ => rfl, fun _ => rfl, fun other => absurd op other⟩
  all_goals
    exact ⟨fun _ => rfl, fun _ => rfl, fun _ => rfl, fun _ => rfl, fun _ => rfl, ⟨rfl, rfl⟩,
      fun _ => rfl, fun _ => rfl, fun _ => rfl⟩

end Run

end Chip8.Machine
