import Chip8.Machine.Step
import Chip8.Proofs.Keypad.Keys
import Chip8.Proofs.Machine.Fetch
import Chip8.Proofs.Machine.Instruction

/-!
# What one step does

A step whose time the timers accept gives one of seven results, by the latched fault, the wait for a
key, the word at the program counter and the obstacles to it.  Each result is given as the whole
machine after the step, so what is not mentioned in it has not changed.
-/
namespace Chip8.Machine

/-- The machine when a step has counted itself and given the timers their time. -/
def begun (m : Machine) (timers : Timers) : Machine := { m with timers, steps := m.steps + 1 }

/-- The machine stopped at a fault of the instruction at its program counter. -/
def failed (m : Machine) (pc : Int) (v : Violation) : Machine :=
  { m.record (.failed v) with fault := some (faultAt pc v) }

/-- The machine with a key taken from its input and stored in the register that waits for it. -/
def resumed (m : Machine) (x : Fin 16) (key : Int) : Machine :=
  ({ m with input := m.input.poll.2, waiting := none }.setRegister x
    (UInt8.ofNat (lowKey key).val)).next

/-- The results of a step that gives the timers their time. -/
inductive StepResult (m : Machine) (timers : Timers) : Machine → Outcome → Prop where
  | stopped (o : Outcome) (fault : m.fault = some o) : StepResult m timers { m with timers } o
  | idle (x : Fin 16) (fault : m.fault = none) (waiting : m.waiting = some x)
    (quiet : m.input.poll.1 = none) :
    StepResult m timers { m.begun timers with input := m.input.poll.2 } .running
  | resumed (x : Fin 16) (key : Int) (fault : m.fault = none) (waiting : m.waiting = some x)
    (pressed : m.input.poll.1 = some key) :
    StepResult m timers ((m.begun timers).resumed x key) .running
  | unfetched (fault : m.fault = none) (waiting : m.waiting = none) (missing : m.fetched? = none) :
    StepResult m timers
      ((m.begun timers).failed m.registers.pc (.memory ⟨m.registers.pc, 2⟩))
      (faultAt m.registers.pc (.memory ⟨m.registers.pc, 2⟩))
  | ended (w : Opcode) (fault : m.fault = none) (waiting : m.waiting = none)
    (fetched : m.fetched? = some w) (zero : w.value = 0) :
    StepResult m timers (m.begun timers) .halted
  | refused (w : Opcode) (v : Violation) (fault : m.fault = none) (waiting : m.waiting = none)
    (fetched : m.fetched? = some w) (proper : w.value ≠ 0) (obstacle : Obstacle m w v) :
    StepResult m timers
      (((m.begun timers).record (.executed m.registers.pc w)).failed m.registers.pc v)
      (faultAt m.registers.pc v)
  | carried (w : Opcode) (after : Machine) (fault : m.fault = none) (waiting : m.waiting = none)
    (fetched : m.fetched? = some w) (proper : w.value ≠ 0)
    (free : ∀ v, ¬ Obstacle m w v)
    (run : (execute w).run ((m.begun timers).record (.executed m.registers.pc w)) = .ok () after)
    (flow : Flow ((m.begun timers).record (.executed m.registers.pc w)) w after) :
    StepResult m timers after .running

section Begun
variable (m : Machine) (timers : Timers)

@[simp] theorem begun_registers : (m.begun timers).registers = m.registers := rfl
@[simp] theorem begun_memory : (m.begun timers).memory = m.memory := rfl
@[simp] theorem begun_input : (m.begun timers).input = m.input := rfl

end Begun

/-- Recording a line changes the trace alone. -/
theorem record_eq (m : Machine) (line : TraceLine) :
    m.record line = { m with trace := if m.tracing then m.trace.push line else m.trace } := by
  unfold record
  split <;> rfl

@[simp] theorem record_registers (m : Machine) (line : TraceLine) :
    (m.record line).registers = m.registers := by
  rw [record_eq]

@[simp] theorem record_waiting (m : Machine) (line : TraceLine) :
    (m.record line).waiting = m.waiting := by
  rw [record_eq]

@[simp] theorem record_fault (m : Machine) (line : TraceLine) :
    (m.record line).fault = m.fault := by
  rw [record_eq]

/-- An obstacle is a matter of the registers alone. -/
theorem Obstacle.congr {m other : Machine} {w : Opcode} {v : Violation}
    (same : other.registers = m.registers) (obstacle : Obstacle m w v) : Obstacle other w v := by
  cases obstacle with
  | full op depth => exact same ▸ .full op (same ▸ depth)
  | empty op none => exact .empty op (same ▸ none)
  | block length accessed outside => exact same ▸ .block length accessed (same ▸ outside)

/-- An instruction at the program counter is carried out unless it is the zero word or meets an
obstacle. -/
theorem fetchAndExecute_result (m : Machine) (timers : Timers) (fault : m.fault = none)
    (waiting : m.waiting = none) :
    StepResult m timers (m.begun timers).fetchAndExecute.machine
      (m.begun timers).fetchAndExecute.outcome := by
  unfold fetchAndExecute
  rcases readPair_eq_fetched m with ⟨missing, read⟩ | ⟨high, low, fetched, read⟩
  · simp only [begun_memory, begun_registers, read]
    exact .unfetched fault waiting missing
  · by_cases zero : (Opcode.ofBytes high low).value = 0
    · simp only [begun_memory, begun_registers, read, zero, if_true]
      exact .ended _ fault waiting fetched zero
    · have proper : (Opcode.ofBytes high low).operation ≠ .halt := by
        rwa [Ne, Opcode.operation_eq_iff]
      let started := (m.begun timers).record (.executed m.registers.pc (.ofBytes high low))
      have same : started.registers = m.registers := by simp [started]
      simp only [begun_memory, begun_registers, read, if_neg zero]
      cases run : (execute (.ofBytes high low)).run started with
      | error v left =>
        obtain ⟨obstacle, rfl⟩ := execute_error started left _ v proper run
        exact .refused _ v fault waiting fetched zero (obstacle.congr same.symm)
      | ok _ after =>
        have free : ∀ v, ¬ Obstacle started (.ofBytes high low) v := by
          intro v obstacle
          rw [execute_refused started _ v obstacle] at run
          cases run
        obtain ⟨_, again, flow⟩ := execute_flow started _ proper free
        rw [run] at again
        cases again
        exact .carried _ after fault waiting fetched zero
          (fun v obstacle => free v (obstacle.congr same)) run flow

/-! What is left of a step when the timers have their time, by the state of the machine. -/

section Cycle
variable (m : Machine)

theorem cycle_stopped (o : Outcome) (fault : m.fault = some o) : m.cycle = ⟨m, o, []⟩ := by
  unfold cycle
  rw [fault]

theorem cycle_waiting (x : Fin 16) (fault : m.fault = none) (waiting : m.waiting = some x) :
    m.cycle = ({ m with steps := m.steps + 1 } : Machine).serviceWait x := by
  unfold cycle
  rw [fault]
  simp only [waiting]

theorem cycle_running (fault : m.fault = none) (waiting : m.waiting = none) :
    m.cycle = ({ m with steps := m.steps + 1 } : Machine).fetchAndExecute := by
  unfold cycle
  rw [fault]
  simp only [waiting]

theorem serviceWait_idle (x : Fin 16) (quiet : m.input.poll.1 = none) :
    m.serviceWait x = ⟨{ m with input := m.input.poll.2 }, .running, []⟩ := by
  unfold serviceWait
  simp only [quiet]

theorem serviceWait_pressed (x : Fin 16) (key : Int) (pressed : m.input.poll.1 = some key) :
    m.serviceWait x = ⟨m.resumed x key, .running, [.keyStored key x]⟩ := by
  unfold serviceWait
  simp only [pressed]
  rfl

end Cycle

/-- A machine whose timers have their time comes to one of the seven results. -/
theorem cycle_result (m : Machine) (timers : Timers) :
    StepResult m timers ({ m with timers } : Machine).cycle.machine
      ({ m with timers } : Machine).cycle.outcome := by
  by_cases stopped : m.fault = none
  · by_cases free : m.waiting = none
    · have running : ({ m with timers } : Machine).cycle = (m.begun timers).fetchAndExecute :=
        cycle_running _ stopped free
      rw [running]
      exact fetchAndExecute_result m timers stopped free
    · obtain ⟨x, waiting⟩ := Option.ne_none_iff_exists'.mp free
      have parked : ({ m with timers } : Machine).cycle = (m.begun timers).serviceWait x :=
        cycle_waiting _ x stopped waiting
      rw [parked]
      by_cases quiet : m.input.poll.1 = none
      · rw [serviceWait_idle (m.begun timers) x quiet]
        exact .idle x stopped waiting quiet
      · obtain ⟨key, pressed⟩ := Option.ne_none_iff_exists'.mp quiet
        rw [serviceWait_pressed (m.begun timers) x key pressed]
        exact .resumed x key stopped waiting pressed
  · obtain ⟨o, fault⟩ := Option.ne_none_iff_exists'.mp stopped
    rw [cycle_stopped { m with timers } o fault]
    exact .stopped o fault

/-- A step whose time the timers accept gives them that time and has one of the seven results. -/
theorem step_success (m : Machine) (elapsed : Reading) (timers : Timers) (ticks : Nat)
    (accepted : m.timers.update elapsed = .ok (timers, ticks)) :
    ∃ t, m.step elapsed = .ok t ∧ StepResult m timers t.machine t.outcome := by
  unfold step
  rw [accepted]
  exact ⟨_, rfl, cycle_result m timers⟩

/-- A step that does not give an answer was refused by the timers. -/
theorem step_result (m : Machine) (elapsed : Reading) (t : Transition)
    (stepped : m.step elapsed = .ok t) :
    ∃ timers ticks, m.timers.update elapsed = .ok (timers, ticks) ∧
      StepResult m timers t.machine t.outcome := by
  cases accepted : m.timers.update elapsed with
  | error e =>
    unfold step at stepped
    rw [accepted] at stepped
    cases stepped
  | ok given =>
    obtain ⟨timers, ticks⟩ := given
    obtain ⟨u, again, result⟩ := m.step_success elapsed timers ticks accepted
    rw [stepped] at again
    cases again
    exact ⟨timers, ticks, rfl, result⟩

/-- Whether the next step carries out an instruction. -/
structure Carries (m : Machine) (w : Opcode) : Prop where
  due : m.due? = some w
  proper : w.value ≠ 0
  free : ∀ v, ¬ Obstacle m w v

/-- A machine that has stopped or waits for a key carries nothing out. -/
theorem Carries.running {m : Machine} {w : Opcode} (carries : m.Carries w) :
    m.fault = none ∧ m.waiting = none :=
  have due := (due_iff m w).mp carries.due
  ⟨due.1, due.2.1⟩

theorem Carries.unique {m : Machine} {v w : Opcode} (first : m.Carries v) (second : m.Carries w) :
    v = w := by
  have due := first.due
  rw [second.due] at due
  exact (Option.some.inj due).symm

/-- A word that does not end the program and can meet no obstacle is carried out. -/
theorem carries_of_operation {m : Machine} {w : Opcode} (due : m.due? = some w)
    (free : w.operation ∉
      [.halt, .call, .ret, .draw, .storeDecimal, .storeRegisters, .loadRegisters]) :
    m.Carries w := by
  rw [List.mem_cons, not_or] at free
  refine ⟨due, fun zero => free.1 (w.operation_of_fits .halt zero), fun v obstacle => ?_⟩
  exact free.2 (obstacle_operation m w v obstacle)

/-- A word that accesses a block within memory is carried out. -/
theorem carries_of_block {m : Machine} {w : Opcode} (due : m.due? = some w) (length : Nat)
    (accessed : blockLength? w = some length)
    (fits : m.registers.index.toNat + length ≤ Memory.size) : m.Carries w := by
  refine ⟨due, fun zero => ?_, fun v obstacle => ?_⟩
  · rw [blockLength?, w.operation_of_fits .halt zero] at accessed
    cases accessed
  · cases obstacle with
    | full op | empty op =>
      rw [blockLength?, op] at accessed
      cases accessed
    | block other again outside =>
      cases accessed.symm.trans again
      rw [(Memory.inBounds_iff _ _).mpr fits] at outside
      cases outside

/-- Whether the next step carries out none of some operations. -/
def Omits (m : Machine) (operations : List Operation) : Prop :=
  ∀ w, m.Carries w → w.operation ∉ operations

/-- Whether the next step stores a key in the register that waits for it. -/
structure Completes (m : Machine) (x : Fin 16) (key : Int) : Prop where
  fault : m.fault = none
  waiting : m.waiting = some x
  pressed : m.input.poll.1 = some key

/-! The results by the state of the machine. -/

section Inversion
variable {m after : Machine} {timers : Timers} {o : Outcome} {w : Opcode}

/-- A machine that has stopped at a fault reports it again. -/
theorem result_stopped {latched : Outcome} (fault : m.fault = some latched)
    (result : StepResult m timers after o) : o = latched ∧ after = { m with timers } := by
  cases result with
  | stopped _ again =>
    rw [fault] at again
    cases again
    exact ⟨rfl, rfl⟩
  | idle _ free | resumed _ _ free | unfetched free | ended _ free | refused _ _ free
  | carried _ _ free =>
    rw [fault] at free
    cases free

/-- A machine that waits for a key asks for one, and either stays or stores it. -/
theorem result_waiting (x : Fin 16) (fault : m.fault = none) (waiting : m.waiting = some x)
    (result : StepResult m timers after o) :
    o = .running ∧
    ((m.input.poll.1 = none ∧ after = { m.begun timers with input := m.input.poll.2 }) ∨
      ∃ key, m.input.poll.1 = some key ∧ after = (m.begun timers).resumed x key) := by
  cases result with
  | stopped _ latched =>
    rw [fault] at latched
    cases latched
  | idle _ _ _ quiet => exact ⟨rfl, Or.inl ⟨quiet, rfl⟩⟩
  | resumed _ key _ again pressed =>
    rw [waiting] at again
    cases again
    exact ⟨rfl, Or.inr ⟨key, pressed, rfl⟩⟩
  | unfetched _ free _ | ended _ _ free _ _ | refused _ _ _ free _ _ _
  | carried _ _ _ free _ _ _ _ _ =>
    rw [waiting] at free
    cases free

/-- A machine that runs finds the end of its program, is kept from the word at its program counter,
or carries the word out. -/
theorem result_fetched (w : Opcode) (fault : m.fault = none) (waiting : m.waiting = none)
    (fetched : m.fetched? = some w) (result : StepResult m timers after o) :
    (o = .halted ∧ w.value = 0 ∧ after = m.begun timers) ∨
    (∃ v, o = faultAt m.registers.pc v ∧ w.value ≠ 0 ∧ Obstacle m w v ∧
      after = ((m.begun timers).record (.executed m.registers.pc w)).failed m.registers.pc v) ∨
    (o = .running ∧ w.value ≠ 0 ∧ (∀ v, ¬ Obstacle m w v) ∧
      (execute w).run ((m.begun timers).record (.executed m.registers.pc w)) = .ok () after) := by
  cases result with
  | stopped _ latched =>
    rw [fault] at latched
    cases latched
  | idle _ _ waits _ | resumed _ _ _ waits _ =>
    rw [waiting] at waits
    cases waits
  | unfetched _ _ missing =>
    rw [fetched] at missing
    cases missing
  | ended _ _ _ again zero =>
    rw [fetched] at again
    cases again
    exact Or.inl ⟨rfl, zero, rfl⟩
  | refused _ v _ _ again proper obstacle =>
    rw [fetched] at again
    cases again
    exact Or.inr (Or.inl ⟨v, rfl, proper, obstacle, rfl⟩)
  | carried _ _ _ _ again proper free run _ =>
    rw [fetched] at again
    cases again
    exact Or.inr (Or.inr ⟨rfl, proper, free, run⟩)

/-- The zero word ends the program. -/
theorem result_ended (due : m.due? = some w) (zero : w.value = 0)
    (result : StepResult m timers after o) : o = .halted ∧ after = m.begun timers := by
  obtain ⟨fault, waiting, fetched⟩ := (m.due_iff w).mp due
  rcases result_fetched w fault waiting fetched result with
    ⟨halted, _, same⟩ | ⟨_, _, proper, _⟩ | ⟨_, proper, _⟩
  · exact ⟨halted, same⟩
  · exact absurd zero proper
  · exact absurd zero proper

/-- An obstacle to any other word stops the machine. -/
theorem result_refused {v : Violation} (due : m.due? = some w) (proper : w.value ≠ 0)
    (obstacle : Obstacle m w v) (result : StepResult m timers after o) :
    o = faultAt m.registers.pc v ∧
      after = ((m.begun timers).record (.executed m.registers.pc w)).failed m.registers.pc v := by
  obtain ⟨fault, waiting, fetched⟩ := (m.due_iff w).mp due
  rcases result_fetched w fault waiting fetched result with
    ⟨_, zero, _⟩ | ⟨u, outcome, _, other, failed⟩ | ⟨_, _, free, _⟩
  · exact absurd zero proper
  · rw [obstacle_unique m w v u obstacle other]
    exact ⟨outcome, failed⟩
  · exact absurd obstacle (free v)

/-- An instruction that meets no obstacle and does not end the program is carried out. -/
theorem result_carries (carries : m.Carries w) (result : StepResult m timers after o) :
    o = .running ∧
      (execute w).run ((m.begun timers).record (.executed m.registers.pc w)) = .ok () after := by
  obtain ⟨fault, waiting, fetched⟩ := (m.due_iff w).mp carries.due
  rcases result_fetched w fault waiting fetched result with
    ⟨_, zero, _⟩ | ⟨v, _, _, obstacle, _⟩ | ⟨running, _, _, run⟩
  · exact absurd zero carries.proper
  · exact absurd obstacle (carries.free v)
  · exact ⟨running, run⟩

/-- So is one that accesses a block within memory. -/
theorem result_block {length : Nat} (due : m.due? = some w) (accessed : blockLength? w = some length)
    (fits : m.registers.index.toNat + length ≤ Memory.size) (result : StepResult m timers after o) :
    o = .running ∧
      (execute w).run ((m.begun timers).record (.executed m.registers.pc w)) = .ok () after :=
  result_carries (carries_of_block due length accessed fits) result

/-- A step that goes on with a word that is due has carried it out. -/
theorem carries_of_running (due : m.due? = some w) (result : StepResult m timers after .running) :
    m.Carries w := by
  obtain ⟨fault, waiting, fetched⟩ := (m.due_iff w).mp due
  rcases result_fetched w fault waiting fetched result with
    ⟨halted, _⟩ | ⟨v, stopped, _⟩ | ⟨_, proper, free, _⟩
  · cases halted
  · cases stopped
  · exact ⟨due, proper, free⟩

/-- A machine without a word at its program counter stops there. -/
theorem result_unfetched (fault : m.fault = none) (waiting : m.waiting = none)
    (missing : m.fetched? = none) (result : StepResult m timers after o) :
    o = faultAt m.registers.pc (.memory ⟨m.registers.pc, 2⟩) ∧
      after = (m.begun timers).failed m.registers.pc (.memory ⟨m.registers.pc, 2⟩) := by
  cases result with
  | stopped _ latched =>
    rw [fault] at latched
    cases latched
  | idle _ _ waits _ | resumed _ _ _ waits _ =>
    rw [waiting] at waits
    cases waits
  | unfetched => exact ⟨rfl, rfl⟩
  | ended _ _ _ fetched _ | refused _ _ _ _ fetched _ _ | carried _ _ _ _ fetched _ _ _ _ =>
    rw [missing] at fetched
    cases fetched

/-- A step that waits for a key takes a press from the keypad, and one that begins to wait forgets
the presses; every other one leaves the keypad alone. -/
theorem result_keypad (k : Keypad) (input : m.input = .keypad k)
    (result : StepResult m timers after o) : ∃ left, after.input = .keypad left ∧ k.Stepped left := by
  cases result with
  | stopped | ended => exact ⟨k, input, .kept⟩
  | idle | resumed =>
    have polled : m.input.poll.2 = .keypad k.poll.2 := by
      rw [input]
      rfl
    exact ⟨k.poll.2, polled, .polled⟩
  | unfetched =>
    rw [failed, record_eq]
    exact ⟨k, input, .kept⟩
  | refused =>
    rw [failed, record_eq, record_eq]
    exact ⟨k, input, .kept⟩
  | carried w after _ _ _ _ _ _ flow =>
    rw [record_eq] at flow
    cases flow with
    | forward _ _ _ _ same _ _ => exact ⟨k, same.trans input, .kept⟩
    | jumped _ _ moved | called _ _ moved | returned _ _ _ moved =>
      subst moved
      exact ⟨k, input, .kept⟩
    | parked _ moved =>
      subst moved
      have cleared : m.input.clearEvents = .keypad k.clearEvents := by
        rw [input]
        rfl
      exact ⟨k.clearEvents, cleared, .cleared⟩

end Inversion

end Chip8.Machine
