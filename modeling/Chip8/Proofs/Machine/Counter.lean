import Chip8.Proofs.CallStack
import Chip8.Proofs.Machine.Footprint
import Chip8.Proofs.Machine.Session
import Chip8.Proofs.Timers

/-!
# Where the program counter goes

An instruction that is carried out goes on with the next one or with the one after that, goes to an
address, or stays where it is to wait for a key.  The digits of the word tell which of these it does;
the condition of a skip is read off the machine before the step.
-/
namespace Chip8.Machine

/-- The address behind the present instruction, or the one behind the next if that is skipped. -/
def past (m : Machine) (skips : Bool) : Int :=
  if skips then m.registers.pc + 4 else m.registers.pc + 2

/-- Where an instruction that is carried out takes the program counter, by the digits of its word. -/
def destination (m : Machine) (w : Opcode) : Int :=
  let vx := m.registers.get w.x
  let vy := m.registers.get w.y
  match w.family with
  | 0x0 =>
    if w.value = 0x00EE then (m.registers.stack.entries.headD 0).toNat else m.past false
  | 0x1 | 0x2 => w.nnn
  | 0x3 => m.past (vx = w.kk)
  | 0x4 => m.past (vx ≠ w.kk)
  | 0x5 => m.past (vx = vy)
  | 0x9 => m.past (vx ≠ vy)
  | 0xB => w.nnn + m.registers.offset.toNat
  | 0xE =>
    match w.low with
    | 0x9E => m.past (m.input.isDown (lowKey vx.toNat))
    | 0xA1 => m.past (!m.input.isDown (lowKey vx.toNat))
    | _ => m.past false
  | 0xF => if w.low = 0x0A then m.registers.pc else m.past false
  | _ => m.past false

/-- The destination is a matter of the registers and the keys. -/
theorem destination_congr {m other : Machine} {w : Opcode} (registers : other.registers = m.registers)
    (input : other.input = m.input) : other.destination w = m.destination w := by
  simp only [destination, past, registers, input]

/-- The operations whose instructions go to an address, wait or may skip. -/
def turns : List Operation :=
  [.ret, .jump, .call, .skipIfByte, .skipUnlessByte, .skipIfEqual, .skipUnlessEqual, .jumpOffset,
   .skipIfPressed, .skipUnlessPressed, .awaitKey]

section Run
variable {m after : Machine} {w : Opcode}

/-- Every other instruction goes on with the next one. -/
theorem destination_next (straight : w.operation ∉ turns) : m.destination w = m.past false := by
  have other : ∀ o ∈ turns, ¬ o.Fits w := by
    rintro o turn fits
    rw [w.operation_of_fits o fits] at straight
    exact straight turn
  unfold destination
  split
  · exact if_neg (other .ret (by decide))
  · next family => exact absurd family (other .jump (by decide))
  · next family => exact absurd family (other .call (by decide))
  · next family => exact absurd family (other .skipIfByte (by decide))
  · next family => exact absurd family (other .skipUnlessByte (by decide))
  · next family => exact absurd family (other .skipIfEqual (by decide))
  · next family => exact absurd family (other .skipUnlessEqual (by decide))
  · next family => exact absurd family (other .jumpOffset (by decide))
  · next family =>
    split
    · next low => exact absurd ⟨family, low⟩ (other .skipIfPressed (by decide))
    · next low => exact absurd ⟨family, low⟩ (other .skipUnlessPressed (by decide))
    · rfl
  · next family =>
    exact if_neg fun low => other .awaitKey (by decide) ⟨family, low⟩
  · rfl

/-- The program counter of a word that was fetched is far below the end of its sixteen bits. -/
theorem skipIf_counter (within : 0 ≤ m.registers.pc ∧ m.registers.pc ≤ 0xFFE) (condition : Bool) :
    (m.skipIf condition).registers.pc = m.past condition := by
  cases condition <;>
  · simp only [skipIf, past, Registers.advance, if_true, Bool.false_eq_true, if_false]
    omega

theorem next_counter (within : 0 ≤ m.registers.pc ∧ m.registers.pc ≤ 0xFFE) :
    m.next.registers.pc = m.past false :=
  skipIf_counter within false

/-- An instruction that is carried out goes to its destination. -/
theorem execute_counter (run : (execute w).run m = .ok () after)
    (within : 0 ≤ m.registers.pc ∧ m.registers.pc ≤ 0xFFE) (proper : w.value ≠ 0) :
    after.registers.pc = m.destination w := by
  have fits := w.operation_fits
  cases op : w.operation
  case call =>
    rw [op] at fits
    have family : w.family = 0x2 := fits
    obtain ⟨stack, _, rfl⟩ := execute_called op run
    simp only [destination, family, jump]
  case ret =>
    rw [op] at fits
    have value : w.value = 0x00EE := fits
    have family : w.family = 0x0 := by rw [Opcode.family, value]
    obtain ⟨address, stack, popped, rfl⟩ := execute_returned op run
    obtain ⟨entries, _⟩ := CallStack.pop_success _ _ _ popped
    simp only [destination, family, value, if_true, entries, List.headD_cons, jump]
  case draw =>
    obtain ⟨rows, _, rfl⟩ := execute_drawn op run
    rw [destination_next (by rw [op]; decide)]
    exact next_counter within
  case storeDecimal =>
    obtain ⟨memory, _, rfl⟩ := execute_storedDecimal op run
    rw [destination_next (by rw [op]; decide)]
    exact next_counter within
  case storeRegisters =>
    obtain ⟨memory, _, rfl⟩ := execute_storedRegisters op run
    rw [destination_next (by rw [op]; decide)]
    exact next_counter within
  case loadRegisters =>
    obtain ⟨data, _, rfl⟩ := execute_loadedRegisters op run
    rw [destination_next (by rw [op]; decide)]
    exact next_counter within
  case halt =>
    rw [op] at fits
    exact absurd fits proper
  -- the others are not broken off, and the machine that they leave can be read from them
  all_goals
    unfold execute at run
    rw [EStateM.run_bind, EStateM.run_get, op] at run
    injection run with _ left
    subst left
    rw [op] at fits
  case jump =>
    have family : w.family = 0x1 := fits
    simp only [destination, family, jump]
  case jumpOffset =>
    have family : w.family = 0xB := fits
    have address := w.value_lt
    have offset := m.registers.offset.toNat_lt
    simp only [destination, family, jump, Opcode.nnn, Registers.offset] at *
    omega
  case awaitKey =>
    obtain ⟨family, low⟩ : w.family = 0xF ∧ w.low = 0x0A := fits
    simp only [destination, family, low, if_true, awaitKey]
  case skipIfByte | skipUnlessByte | skipIfEqual | skipUnlessEqual | skipIfPressed
  | skipUnlessPressed =>
    simp only [Operation.Fits] at fits
    simp only [destination, fits]
    exact skipIf_counter within _
  all_goals
    rw [destination_next (by rw [op]; decide)]
    exact next_counter within

/-- A word without a meaning is passed over. -/
theorem execute_unknown (op : w.operation = .unknown) (run : (execute w).run m = .ok () after) :
    after = m.next := by
  unfold execute at run
  rw [EStateM.run_bind, EStateM.run_get, op] at run
  injection run with _ left
  exact left.symm

end Run

/-- A step that goes on with a word that is due takes the program counter to the destination of the
word.  A call has then added the address behind it to the call stack, a return has taken its
destination off, and a word without a meaning has changed nothing else of the machine but the time,
the count of steps and the trace. -/
theorem step_destination (m : Machine) (w : Opcode) (elapsed : Reading) (t : Transition)
    (due : m.due? = some w) (stepped : m.step elapsed = .ok t) (running : t.outcome = .running) :
    t.machine.registers.pc = m.destination w ∧
    (w.family = 0x2 →
      t.machine.registers.stack.entries.map (fun a => (a.toNat : Int)) =
        (m.registers.pc + 2) :: m.registers.stack.entries.map (fun a => (a.toNat : Int))) ∧
    (w.value = 0x00EE → ∃ address : UInt16,
      m.registers.stack.entries = address :: t.machine.registers.stack.entries ∧
      m.destination w = address.toNat) ∧
    (Operation.Fits w .unknown → ∃ timers ticks,
      m.timers.update elapsed = .ok (timers, ticks) ∧
      t.machine = { m with
        registers := { m.registers with pc := m.registers.pc + 2 }
        timers
        steps := m.steps + 1
        trace := t.machine.trace }) := by
  obtain ⟨timers, ticks, accepted, result⟩ := m.step_result elapsed t stepped
  rw [running] at result
  have carries := carries_of_running due result
  obtain ⟨_, run⟩ := result_carries carries result
  rw [record_eq] at run
  have within := fetched_within m w ((due_iff m w).mp due).2.2
  have counter : t.machine.registers.pc = m.destination w :=
    (execute_counter run within carries.proper).trans (destination_congr rfl rfl)
  refine ⟨counter, ?_, ?_, ?_⟩
  · intro family
    obtain ⟨stack, pushed, called⟩ := execute_called (w.operation_of_fits .call family) run
    obtain ⟨_, rfl⟩ := CallStack.push_success _ _ _ pushed
    have entry : ((UInt16.ofInt (m.registers.pc + 2)).toNat : Int) = m.registers.pc + 2 := by
      rw [Opcode.toNat_ofInt16]
      omega
    rw [called]
    exact congrArg (· :: _) entry
  · intro value
    obtain ⟨address, stack, popped, returned⟩ := execute_returned (w.operation_of_fits .ret value) run
    obtain ⟨entries, _⟩ := CallStack.pop_success _ _ _ popped
    rw [returned] at counter ⊢
    exact ⟨address, entries, counter.symm⟩
  · intro unknown
    have passed := execute_unknown (w.operation_of_fits .unknown unknown) run
    have straight : (m.registers.pc + 2 * 1) % 65536 = m.registers.pc + 2 := by omega
    refine ⟨timers, ticks, accepted, ?_⟩
    rw [passed]
    simp only [next, Registers.advance, begun, straight]

/-- A machine that is about to skip if the key is down that the low digit of a register names. -/
def atPressed : Machine :=
  (fresh (.keypad {}) (.repeating [])).session
    [.load [0xE1, 0x9E], .setRegister 1 0x13, .keypad (.press 3)]

/-- The key is down, so the next instruction is skipped. -/
theorem step_destination_pressed :
    ∃ t, atPressed.step Timers.noTime = .ok t ∧ t.outcome = .running ∧
      t.machine.registers.pc = 0x204 := by
  have fetched : atPressed.fetched? = some (.ofBytes 0xE1 0x9E) :=
    fetched_load _ Memory.initial 0xE1 0x9E [] rfl rfl
  have due : atPressed.due? = some (.ofBytes 0xE1 0x9E) := (due_iff _ _).mpr ⟨rfl, rfl, fetched⟩
  obtain ⟨t, stepped, result⟩ :=
    atPressed.step_success Timers.noTime {} 0 (Timers.update_noTime {} rfl)
  obtain ⟨running, _⟩ := result_carries (carries_of_operation due (by decide)) result
  obtain ⟨counter, _⟩ := step_destination atPressed _ _ t due stepped running
  exact ⟨t, stepped, running, counter.trans (by decide +kernel)⟩

end Chip8.Machine
