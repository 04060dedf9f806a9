import Chip8.Proofs.Machine.Changes
import Chip8.Proofs.Machine.Stages
import Chip8.Proofs.Timers

/-!
# Registers saved in memory

One instruction saves the registers up to one of them from the index register on, another loads them
from there.  What lies between the two may do anything that does not store to the block: the bytes
of the block stay, so the second instruction restores the registers that the first one has saved.
-/
namespace Chip8

/-- Whether a step carries out an instruction that stores to an address. -/
def Stage.Stores (s : Stage) (a : Int) : Prop := ∃ w, s.start.Carries w ∧ a ∈ s.start.stored w

namespace Machine

/-- What is left when the registers up to one are saved: they stand in memory from the index register
on, and every other byte, the registers and the index register are as they were. -/
structure Saved (m : Machine) (x : Fin 16) (after : Machine) : Prop where
  block : ∀ i ≤ x,
    after.memory.byte? (m.registers.index.toNat + i.val : Nat) = some (m.registers.get i)
  memory : ∀ a, a ∉ Memory.stretch m.registers.index.toNat (x.val + 1) →
    after.memory.byte? a = m.memory.byte? a
  registers : ∀ i, after.registers.get i = m.registers.get i
  index : after.registers.index = m.registers.index

/-- What is left when the registers up to one are loaded: they are the bytes from the index register
on, and every other register, the index register and memory are as they were. -/
structure Loaded (m : Machine) (x : Fin 16) (after : Machine) : Prop where
  block : ∀ i ≤ x,
    m.memory.byte? (m.registers.index.toNat + i.val : Nat) = some (after.registers.get i)
  registers : ∀ i, x < i → after.registers.get i = m.registers.get i
  index : after.registers.index = m.registers.index
  memory : after.memory = m.memory

/-- Whether the bytes from the index register on have become the decimal digits of the value of a
register. -/
def DigitsOf (m : Machine) (x : Fin 16) (after : Machine) : Prop :=
  ∃ hundreds tens units : UInt8,
    after.memory.byte? (m.registers.index.toNat : Nat) = some hundreds ∧
    after.memory.byte? (m.registers.index.toNat + 1 : Nat) = some tens ∧
    after.memory.byte? (m.registers.index.toNat + 2 : Nat) = some units ∧
    hundreds.toNat ≤ 9 ∧ tens.toNat ≤ 9 ∧ units.toNat ≤ 9 ∧
    100 * hundreds.toNat + 10 * tens.toNat + units.toNat = (m.registers.get x).toNat

section Run
variable {m after : Machine} {w : Opcode}

/-- Registers that are set from the first one on have the bytes that they were set to. -/
theorem get_withRegisters {data : List UInt8} {i : Fin 16} {b : UInt8} (byte : data[i.val]? = some b) :
    (m.withRegisters data).registers.get i = b := by
  have set := Registers.getElem_setFrom m.registers.v 0 data i.val i.isLt
  rw [if_pos (Nat.zero_le _), Nat.sub_zero, byte] at set
  exact set

theorem execute_saved (op : w.operation = .storeRegisters)
    (run : (execute w).run m = .ok () after) : Saved m w.x after where
  block i upTo := by
    obtain ⟨memory, written, rfl⟩ := execute_storedRegisters op run
    exact Memory.byte?_written written i.val _ (m.registers.getElem?_upTo w.x i upTo)
  memory a other := execute_memory run a (by rwa [stored, op])
  registers i := execute_registers run i (by rw [Opcode.Sets, op]; exact id)
  index := (execute_footprint run).index (by rw [op]; decide)

theorem execute_loaded (op : w.operation = .loadRegisters)
    (run : (execute w).run m = .ok () after) : Loaded m w.x after where
  block i upTo := by
    obtain ⟨data, read, rfl⟩ := execute_loadedRegisters op run
    have length := Memory.length_readStretch _ _ _ _ read
    have byte : data[i.val]? = some data[i.val] := List.getElem?_eq_getElem (by omega)
    rw [← Memory.getElem?_readStretch _ _ _ _ read i.val (by omega), byte]
    exact congrArg some (get_withRegisters byte).symm
  registers i beyond :=
    execute_registers run i (by rw [Opcode.Sets, op]; exact Fin.not_le.mpr beyond)
  index := (execute_footprint run).index (by rw [op]; decide)
  memory := (execute_footprint run).memory (by rw [op]; decide)

theorem execute_digits (op : w.operation = .storeDecimal)
    (run : (execute w).run m = .ok () after) : DigitsOf m w.x after := by
  obtain ⟨memory, written, rfl⟩ := execute_storedDecimal op run
  refine ⟨_, _, _, Memory.byte?_written written 0 _ rfl, Memory.byte?_written written 1 _ rfl,
    Memory.byte?_written written 2 _ rfl, ?_⟩
  have byte := (m.registers.get w.x).toNat_lt
  simp only [UInt8.toNat_div, UInt8.toNat_mod, UInt8.reduceToNat]
  omega

end Run

section Step
variable {m after : Machine} {timers : Timers} {o : Outcome} {w : Opcode}

/-- A step that is due to save registers in a block within memory does so. -/
theorem result_saved (due : m.due? = some w) (op : w.operation = .storeRegisters)
    (fits : m.registers.index.toNat + w.x.val ≤ 0xFFF) (result : StepResult m timers after o) :
    o = .running ∧ Saved m w.x after := by
  obtain ⟨running, run⟩ :=
    result_block due (by rw [blockLength?, op]) (Nat.succ_le_succ fits) result
  rw [record_eq] at run
  have saved := execute_saved op run
  exact ⟨running, saved.block, saved.memory, saved.registers, saved.index⟩

/-- So does one that is due to load them, -/
theorem result_loaded (due : m.due? = some w) (op : w.operation = .loadRegisters)
    (fits : m.registers.index.toNat + w.x.val ≤ 0xFFF) (result : StepResult m timers after o) :
    o = .running ∧ Loaded m w.x after := by
  obtain ⟨running, run⟩ :=
    result_block due (by rw [blockLength?, op]) (Nat.succ_le_succ fits) result
  rw [record_eq] at run
  have loaded := execute_loaded op run
  exact ⟨running, loaded.block, loaded.registers, loaded.index, loaded.memory⟩

/-- and one that is due to store the digits of a register. -/
theorem result_digits (due : m.due? = some w) (op : w.operation = .storeDecimal)
    (fits : m.registers.index.toNat + 2 ≤ 0xFFF) (result : StepResult m timers after o) :
    o = .running ∧ DigitsOf m w.x after := by
  obtain ⟨running, run⟩ :=
    result_block due (by rw [blockLength?, op]) (Nat.succ_le_succ fits) result
  rw [record_eq] at run
  have digits := execute_digits op run
  exact ⟨running, digits⟩

/-- A byte that no step of a session stores to keeps its value. -/
theorem session_memory (m : Machine) (actions : List HostAction)
    (continues : ∀ a ∈ actions, a.Continues) (address : Int)
    (spared : ∀ s ∈ m.stages actions, ¬ s.Stores address) :
    (m.session actions).memory.byte? address = m.memory.byte? address := by
  induction actions generalizing m with
  | nil => rfl
  | cons a rest ih =>
    have later := ih (m.perform a) (fun b member => continues b (List.mem_cons_of_mem a member))
      fun s member => spared s (List.mem_append_right _ member)
    refine later.trans ?_
    -- a step may store, but not here; every other action leaves memory alone
    cases stage : m.stage? a with
    | none =>
      cases a with
      | step elapsed => rw [m.perform_unstaged elapsed stage]
      | keypad a =>
        simp only [perform]
        split <;> rfl
      | _ => exact (continues _ List.mem_cons_self).elim
    | some s =>
      obtain ⟨elapsed, _, rfl, stepped, left⟩ := m.stage?_eq_some a s stage
      obtain ⟨timers, _, _, result⟩ := s.start.step_result elapsed s.result stepped
      have first : s ∈ s.start.stages (a :: rest) :=
        List.mem_append_left _ (Option.mem_toList.mpr stage)
      rw [left]
      exact result.changes.memory address fun w carries stores =>
        spared s first ⟨w, carries, stores⟩

end Step

/-- A step that is due to save registers in a block within memory stores them there, and keeps every
register, the index register and every other byte.  After any steps and presses of keys that store
nothing in the block, a step that loads as many registers from where the block starts restores them,
and keeps every other register and the index register.  A step among them that stores the digits of a
register stores three decimal digits that name its value, wherever there is room for them. -/
theorem registers_restored (m : Machine) (w : Opcode) (elapsed : Reading) (timers : Timers)
    (ticks : Nat) (due : m.due? = some w) (saves : w.family = 0xF ∧ w.low = 0x55)
    (fits : m.registers.index.toNat + w.x.val ≤ 0xFFF)
    (accepted : m.timers.update elapsed = .ok (timers, ticks)) :
    ∃ t, m.step elapsed = .ok t ∧ t.outcome = .running ∧ Saved m w.x t.machine ∧
      ∀ actions : List HostAction, (∀ a ∈ actions, a.Continues) →
        let later := t.machine.session actions
        (∀ s ∈ t.machine.stages actions, ∀ v, s.start.due? = some v →
          v.family = 0xF ∧ v.low = 0x33 → s.start.registers.index.toNat + 2 ≤ 0xFFF →
          s.result.outcome = .running ∧ DigitsOf s.start v.x s.result.machine) ∧
        ((∀ s ∈ t.machine.stages actions,
            ∀ a ∈ Memory.stretch m.registers.index.toNat (w.x.val + 1), ¬ s.Stores a) →
          ∀ v r left ticks, later.due? = some v → v.family = 0xF ∧ v.low = 0x65 → v.x = w.x →
            later.registers.index = m.registers.index → later.timers.update r = .ok (left, ticks) →
            ∃ u, later.step r = .ok u ∧ u.outcome = .running ∧ Loaded later w.x u.machine ∧
              ∀ i ≤ w.x, u.machine.registers.get i = m.registers.get i) := by
  obtain ⟨t, stepped, result⟩ := m.step_success elapsed timers ticks accepted
  obtain ⟨running, saved⟩ := result_saved due (w.operation_of_fits .storeRegisters saves) fits result
  refine ⟨t, stepped, running, saved, fun actions continues => ⟨?_, ?_⟩⟩
  · intro s member v storing digits room
    obtain ⟨elapsed, stepped⟩ := t.machine.stages_stepped actions s member
    obtain ⟨timers, _, _, result⟩ := s.start.step_result elapsed s.result stepped
    exact result_digits storing (v.operation_of_fits .storeDecimal digits) room result
  · intro spared v r left ticks loading loads same index accepted
    obtain ⟨u, stepped, result⟩ := (t.machine.session actions).step_success r left ticks accepted
    obtain ⟨running, loaded⟩ := result_loaded loading (v.operation_of_fits .loadRegisters loads)
      (by rwa [index, same]) result
    rw [same] at loaded
    refine ⟨u, stepped, running, loaded, fun i upTo => ?_⟩
    -- the byte of the register is the one that was saved
    have inBlock : ((m.registers.index.toNat + i.val : Nat) : Int) ∈
        Memory.stretch m.registers.index.toNat (w.x.val + 1) := by
      rw [Memory.mem_stretch]
      omega
    have kept := t.machine.session_memory actions continues _ fun s member => spared s member _ inBlock
    have read := loaded.block i upTo
    rw [index, kept, saved.block i upTo] at read
    exact (Option.some.inj read).symm

/-- A machine that is about to save two registers, to set one of them, and to load both again. -/
def atSave : Machine :=
  (fresh (.keypad {}) (.repeating [])).session
    [.load [0xF1, 0x55, 0x61, 0x09, 0xF1, 0x65], .setRegister 0 7, .setRegister 1 200, .setIndex 0x300]

/-- The register that was set has its old value again. -/
theorem registers_restored_set :
    let later := atSave.session [.step Timers.noTime, .step Timers.noTime]
    later.registers.get 1 = 9 ∧
    ∃ u, later.step Timers.noTime = .ok u ∧ u.machine.registers.get 1 = 200 := by
  intro later
  have fetched : atSave.fetched? = some (.ofBytes 0xF1 0x55) :=
    fetched_load _ Memory.initial 0xF1 0x55 [0x61, 0x09, 0xF1, 0x65] rfl rfl
  have begins : atSave.registers.index = 0x300 ∧ atSave.registers.get 1 = 200 := by decide +kernel
  have ends : later.due? = some (.ofBytes 0xF1 0x65) ∧ later.registers.index = 0x300 ∧
      later.registers.get 1 = 9 ∧ later.timers.pendingUnits = 0 := by decide +kernel
  obtain ⟨t, stepped, _, _, onwards⟩ :=
    registers_restored atSave (.ofBytes 0xF1 0x55) Timers.noTime {} 0
      ((due_iff _ _).mpr ⟨rfl, rfl, fetched⟩) ⟨rfl, rfl⟩ (by rw [begins.1]; decide)
      (Timers.update_noTime {} rfl)
  have saved : t.machine = atSave.session [.step Timers.noTime] := by
    simp only [session, List.foldl_cons, List.foldl_nil, perform, stepped]
  have setting : t.machine.due? = some (.ofBytes 0x61 0x09) := by
    rw [saved]
    decide +kernel
  have spared : ∀ s ∈ t.machine.stages [.step Timers.noTime],
      ∀ a ∈ Memory.stretch atSave.registers.index.toNat 2, ¬ s.Stores a := by
    rintro s member a _ ⟨w, carries, stores⟩
    rw [stages, stages, List.append_nil, Option.mem_toList] at member
    obtain ⟨_, _, start, _⟩ := t.machine.stage?_eq_some _ s member
    rw [start] at carries stores
    have op : (Opcode.ofBytes 0x61 0x09).operation = .loadByte := by decide
    rw [stored, Option.some.inj (carries.due.symm.trans setting), op] at stores
    cases stores
  obtain ⟨_, restores⟩ := onwards [.step Timers.noTime] (by simp [HostAction.Continues])
  have restored := restores spared (.ofBytes 0xF1 0x65) Timers.noTime
  rw [saved, ← session_append] at restored
  obtain ⟨u, loaded, _, _, values⟩ :=
    restored _ 0 ends.1 ⟨rfl, rfl⟩ rfl (ends.2.1.trans begins.1.symm)
      (Timers.update_noTime _ ends.2.2.2)
  exact ⟨ends.2.2.1, u, loaded, (values 1 (by decide)).trans begins.2⟩

end Machine
end Chip8
