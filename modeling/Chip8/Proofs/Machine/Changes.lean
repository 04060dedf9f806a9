import Chip8.Proofs.Machine.KeyWait
import Chip8.Proofs.Machine.Unseen
import Chip8.Proofs.Machine.Writes

/-!
# What a step changes

Each part of a machine is changed by a step only if the step carries out an instruction that names
it, or stores the key that was waited for.  A step that comes to a fault, reports one again, ends the
program or goes on waiting changes no part that a program can see, apart from the time.
-/
namespace Chip8

namespace Input

/-- Taking a press lets no key go. -/
theorem isDown_poll (input : Input) (key : Fin 16) : input.poll.2.isDown key = input.isDown key := by
  cases input with
  | keypad k => exact Keypad.Stepped.polled.isDown key
  | scripted down presses => rfl

/-- Neither does forgetting the presses. -/
theorem isDown_clearEvents (input : Input) (key : Fin 16) :
    input.clearEvents.isDown key = input.isDown key := by
  cases input <;> rfl

end Input

namespace Machine

/-- What a step makes of the queue of a keypad; the keys that are down and the layout stay. -/
inductive QueueChange (m : Machine) (k : Keypad) : Keypad → Prop where
  | kept : QueueChange m k k
  | forgotten (w : Opcode) (carries : m.Carries w) (op : w.operation = .awaitKey) :
    QueueChange m k { k with events := [] }
  | polled (x : Fin 16) (fault : m.fault = none) (waiting : m.waiting = some x) :
    QueueChange m k { k with events := k.events.tail }

/-- What a step may have changed.  The timers are compared with `timers`, which have the time of the
step. -/
structure Changes (m : Machine) (timers : Timers) (after : Machine) : Prop where
  registers : ∀ i, (∀ w, m.Carries w → ¬ w.Sets i) → (∀ key, ¬ m.Completes i key) →
    after.registers.get i = m.registers.get i
  index : m.Omits [.loadIndex, .addIndex, .loadGlyph] → after.registers.index = m.registers.index
  stack : m.Omits [.call, .ret] → after.registers.stack = m.registers.stack
  memory : ∀ a, (∀ w, m.Carries w → a ∉ m.stored w) → after.memory.byte? a = m.memory.byte? a
  screen : m.Omits [.clearScreen, .draw] → after.screen = m.screen
  delay : m.Omits [.setDelay] → after.timers.delay = timers.delay
  sound : m.Omits [.setSound] → after.timers.sound = timers.sound
  clock : after.timers.pendingUnits = timers.pendingUnits ∧ after.timers.ticks = timers.ticks
  waits : ∀ x, after.waiting = some x → m.waiting = some x ∨
    m.waiting = none ∧ ∃ w, m.Carries w ∧ w.operation = .awaitKey ∧ w.x = x
  resumes : ∀ x, m.waiting = some x → after.waiting = some x ∨
    after.waiting = none ∧ ∃ key, m.Completes x key
  keypad : ∀ k, m.input = .keypad k → ∃ left, after.input = .keypad left ∧ QueueChange m k left
  pressed : ∀ key, after.input.isDown key = m.input.isDown key
  random : m.Omits [.random] → after.random = m.random
  drawn : ∀ w, m.Carries w → w.operation = .random → after.random = m.random.draw.2
  program : after.program = m.program
  breakpoints : after.breakpoints = m.breakpoints
  tracing : after.tracing = m.tracing

section Step
variable {m after : Machine} {timers : Timers} {o : Outcome} {w : Opcode}

/-- A step that carries nothing out and stores no key changes the time, and what a machine keeps
about itself. -/
theorem changes_idle (none : ∀ w, ¬ m.Carries w) (steps : Nat) (fault : Option Outcome)
    (trace : Array TraceLine) : Changes m timers { m with timers, steps, fault, trace } where
  registers _ _ _ := rfl
  index _ := rfl
  stack _ := rfl
  memory _ _ := rfl
  screen _ := rfl
  delay _ := rfl
  sound _ := rfl
  clock := ⟨rfl, rfl⟩
  waits _ waiting := .inl waiting
  resumes _ waiting := .inl waiting
  keypad k input := ⟨k, input, .kept⟩
  pressed _ := rfl
  random _ := rfl
  drawn w carries _ := absurd carries (none w)
  program := rfl
  breakpoints := rfl
  tracing := rfl

/-- A step that asks for a key takes a press. -/
theorem keypad_polled {x : Fin 16} (fault : m.fault = none) (waiting : m.waiting = some x)
    (k : Keypad) (input : m.input = .keypad k) :
    ∃ left, m.input.poll.2 = .keypad left ∧ QueueChange m k left := by
  refine ⟨_, ?_, .polled x fault waiting⟩
  rw [input, ← k.poll_eq]
  rfl

/-- A step that stores a key sets the register that waits for it. -/
theorem changes_resumed {x : Fin 16} {key : Int} (completes : m.Completes x key) :
    Changes m timers ((m.begun timers).resumed x key) where
  registers i _ other := by
    refine (Registers.get_set _ x i _).trans (if_neg ?_)
    rintro rfl
    exact other key completes
  index _ := rfl
  stack _ := rfl
  memory _ _ := rfl
  screen _ := rfl
  delay _ := rfl
  sound _ := rfl
  clock := ⟨rfl, rfl⟩
  waits _ waiting := by cases waiting
  resumes y waiting := by
    rw [completes.waiting] at waiting
    cases waiting
    exact .inr ⟨rfl, key, completes⟩
  keypad := keypad_polled completes.fault completes.waiting
  pressed := m.input.isDown_poll
  random _ := rfl
  drawn w carries _ := by
    have waiting := carries.running.2
    rw [completes.waiting] at waiting
    cases waiting
  program := rfl
  breakpoints := rfl
  tracing := rfl

/-- The instruction that waits for a key forgets the presses so far, and no other one changes the keys
or the wait. -/
theorem execute_keys (run : (execute w).run m = .ok () after) :
    (w.operation = .awaitKey ∧ after.waiting = some w.x ∧ after.input = m.input.clearEvents) ∨
      (after.waiting = m.waiting ∧ after.input = m.input) := by
  by_cases op : w.operation = .awaitKey
  · rw [execute_awaitKey m w op] at run
    cases run
    exact .inl ⟨op, rfl, rfl⟩
  · have frame := execute_footprint run
    exact .inr ⟨frame.waiting op, frame.input op⟩

/-- An instruction that is carried out changes what it names. -/
theorem changes_carried (carries : m.Carries w)
    (run : (execute w).run ((m.begun timers).record (.executed m.registers.pc w)) = .ok () after) :
    Changes m timers after := by
  have same := execute_sameRecords _ after w run
  have frame := execute_footprint run
  have keys := execute_keys run
  rw [record_eq] at run same frame keys
  have free := carries.running.2
  exact
    { registers := fun i unset _ => execute_registers run i (unset w carries)
      index := fun omits => frame.index (omits w carries)
      stack := fun omits => frame.stack (omits w carries)
      memory := fun a other => execute_memory run a (other w carries)
      screen := fun omits => frame.screen (omits w carries)
      delay := fun omits => execute_delay run (List.ne_of_not_mem_cons (omits w carries))
      sound := fun omits => execute_sound run (List.ne_of_not_mem_cons (omits w carries))
      clock := frame.clock
      waits := by
        intro x waiting
        rcases keys with ⟨op, begins, _⟩ | ⟨kept, _⟩
        · rw [begins] at waiting
          exact .inr ⟨free, w, carries, op, Option.some.inj waiting⟩
        · exact .inl (kept.symm.trans waiting)
      resumes := by
        intro x waiting
        rw [free] at waiting
        cases waiting
      keypad := by
        intro k input
        rcases keys with ⟨op, _, cleared⟩ | ⟨_, kept⟩
        · exact ⟨_, cleared.trans (congrArg Input.clearEvents input), .forgotten w carries op⟩
        · exact ⟨k, kept.trans input, .kept⟩
      pressed := by
        intro key
        rcases keys with ⟨_, _, cleared⟩ | ⟨_, kept⟩
        · rw [cleared]
          exact m.input.isDown_clearEvents key
        · rw [kept]
          rfl
      random := fun omits => frame.random (List.ne_of_not_mem_cons (omits w carries))
      drawn := by
        intro v again op
        rw [again.unique carries] at op
        rw [execute_random _ w op] at run
        cases run
        rfl
      program := same.program
      breakpoints := same.breakpoints
      tracing := same.tracing }

/-- A step changes nothing but what its instruction, or the key that is stored, allows. -/
theorem StepResult.changes (result : StepResult m timers after o) : Changes m timers after := by
  cases result with
  | stopped _ fault =>
    refine changes_idle (fun w carries => ?_) m.steps m.fault m.trace
    rw [carries.running.1] at fault
    cases fault
  | idle x fault waiting quiet =>
    have none : ∀ w, ¬ m.Carries w := by
      intro w carries
      rw [carries.running.2] at waiting
      cases waiting
    have idle : Changes m timers (m.begun timers) := changes_idle none (m.steps + 1) m.fault m.trace
    exact { idle with
      keypad := keypad_polled fault waiting
      pressed := m.input.isDown_poll }
  | resumed x key fault waiting pressed => exact changes_resumed ⟨fault, waiting, pressed⟩
  | unfetched fault waiting missing =>
    have none : ∀ w, ¬ m.Carries w := by
      intro w carries
      have fetched := ((due_iff m w).mp carries.due).2.2
      rw [missing] at fetched
      cases fetched
    rw [failed, record_eq]
    exact changes_idle none _ _ _
  | ended w fault waiting fetched zero =>
    have due := (due_iff m w).mpr ⟨fault, waiting, fetched⟩
    refine changes_idle (fun v carries => ?_) _ _ _
    obtain ⟨again, proper, _⟩ := carries
    rw [due] at again
    cases again
    exact proper zero
  | refused w v fault waiting fetched proper obstacle =>
    have due := (due_iff m w).mpr ⟨fault, waiting, fetched⟩
    rw [failed, record_eq, record_eq]
    refine changes_idle (fun u carries => ?_) _ _ _
    obtain ⟨again, _, free⟩ := carries
    rw [due] at again
    cases again
    exact free v obstacle
  | carried w after fault waiting fetched proper free run flow =>
    exact changes_carried ⟨(due_iff m w).mpr ⟨fault, waiting, fetched⟩, proper, free⟩ run

end Step

/-- A step whose time the timers accept gives them that time and comes to an end, and changes each
part of the machine only as its instruction or the end of a wait allows. -/
theorem step_changes (m : Machine) (elapsed : Reading) (timers : Timers) (ticks : Nat)
    (accepted : m.timers.update elapsed = .ok (timers, ticks)) :
    ∃ t, m.step elapsed = .ok t ∧ Changes m timers t.machine := by
  obtain ⟨t, stepped, result⟩ := m.step_success elapsed timers ticks accepted
  exact ⟨t, stepped, result.changes⟩

/-! A random value of which no bit is kept. -/

/-- A machine at an instruction that masks all of a random value. -/
def atRandom : Machine :=
  (fresh (.keypad {}) (.repeating [7])).session [.load [0xC3, 0x00]]

theorem atRandom_carries : atRandom.Carries (.ofBytes 0xC3 0x00) := by
  have fetched : atRandom.fetched? = some (.ofBytes 0xC3 0x00) :=
    fetched_load _ Memory.initial 0xC3 0x00 [] rfl rfl
  exact carries_of_operation ((due_iff _ _).mpr ⟨rfl, rfl, fetched⟩) (by decide)

/-- It takes one value from the source, and changes neither memory nor any register but its own. -/
theorem step_changes_random :
    ∃ t, atRandom.step Timers.noTime = .ok t ∧ t.machine.random = .cycle #[7] 1 ∧
      (∀ a, t.machine.memory.byte? a = atRandom.memory.byte? a) ∧
      ∀ i, i ≠ 3 → t.machine.registers.get i = 0 := by
  obtain ⟨t, stepped, changes⟩ :=
    step_changes atRandom Timers.noTime {} 0 (Timers.update_noTime {} rfl)
  have op : (Opcode.ofBytes 0xC3 0x00).operation = .random := by decide
  refine ⟨t, stepped, changes.drawn _ atRandom_carries op, ?_, ?_⟩
  · intro a
    refine changes.memory a fun w carries => ?_
    rw [carries.unique atRandom_carries, stored, op]
    nofun
  · intro i other
    refine (changes.registers i (fun w carries => ?_) ?_).trans ?_
    · rw [carries.unique atRandom_carries, Opcode.Sets, op]
      exact other
    · intro key completes
      cases completes.waiting
    · exact Vector.getElem_replicate i.isLt

end Machine
end Chip8
