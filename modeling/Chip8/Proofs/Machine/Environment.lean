import Chip8.Proofs.Machine.Changes
import Chip8.Proofs.Machine.Stages
import Chip8.Proofs.Timers.Elapsed
import Mathlib.Data.List.Forall2

/-!
# How the environment enters a machine

Keys, random values and the time reach a program through five instructions.  Two machines of which a
program sees the same, stepped by two hosts at their own pace and with their own keys, do the same as
long as none of the five is carried out.
-/
namespace Chip8

/-- The instructions through which keys, random values and the time reach a program. -/
def Operation.environmental : List Operation :=
  [.random, .skipIfPressed, .skipUnlessPressed, .awaitKey, .readDelay]

/-- Whether an action is a step, or changes the keypad, the timers, the trace or the breakpoints. -/
def HostAction.Environs : HostAction → Prop
  | .step _ | .keypad _ | .setDelay _ | .setSound _ | .switchTrace _ | .clearTrace
  | .addBreakpoint _ | .removeBreakpoint _ | .clearBreakpoints => True
  | _ => False

namespace Machine

/-- The machine `m` in the environment of `n`, and with what `n` keeps about itself. -/
def withEnvironment (m n : Machine) : Machine :=
  { n with
    registers := m.registers
    memory := m.memory
    screen := m.screen
    fault := m.fault
    waiting := m.waiting }

/-- Whether a program sees the same of two machines, which wait alike and have stopped alike. -/
structure SameView (m n : Machine) : Prop where
  registers : n.registers = m.registers
  memory : n.memory = m.memory
  screen : n.screen = m.screen
  fault : n.fault = m.fault
  waiting : n.waiting = m.waiting

section View
variable {l m n : Machine}

theorem SameView.eq (same : SameView m n) : n = m.withEnvironment n := by
  obtain ⟨registers, memory, screen, fault, waiting⟩ := same
  rw [withEnvironment, ← registers, ← memory, ← screen, ← fault, ← waiting]

theorem SameView.symm (same : SameView m n) : SameView n m :=
  ⟨same.registers.symm, same.memory.symm, same.screen.symm, same.fault.symm, same.waiting.symm⟩

theorem SameView.trans (first : SameView l m) (second : SameView m n) : SameView l n :=
  ⟨second.registers.trans first.registers, second.memory.trans first.memory,
    second.screen.trans first.screen, second.fault.trans first.fault,
    second.waiting.trans first.waiting⟩

theorem SameView.fetched (same : SameView m n) : n.fetched? = m.fetched? := by
  rw [fetched?, fetched?, same.registers, same.memory]

theorem SameView.due (same : SameView m n) : n.due? = m.due? := by
  rw [due?, due?, same.fault, same.waiting, same.fetched]

/-- What the next step carries out is the same. -/
theorem Carries.congr {w : Opcode} (carries : m.Carries w) (same : SameView m n) : n.Carries w :=
  ⟨same.due.trans carries.due, carries.proper,
    fun v obstacle => carries.free v (obstacle.congr same.registers.symm)⟩

end View

section Step
variable {m n a b : Machine} {timers others : Timers} {o p : Outcome} {w : Opcode}

/-- Any other instruction, carried out on both machines, makes the same of what a program sees. -/
theorem execute_sameView (same : SameView m n) (other : w.operation ∉ Operation.environmental)
    (first : (execute w).run m = .ok () a) (second : (execute w).run n = .ok () b) :
    SameView a b := by
  rw [same.eq] at second
  generalize n = e at second
  cases op : w.operation
  case random | skipIfPressed | skipUnlessPressed | awaitKey | readDelay =>
    rw [op] at other
    exact absurd other (by decide)
  case call =>
    obtain ⟨stack, pushed, rfl⟩ := execute_called op first
    obtain ⟨_, again, rfl⟩ := execute_called op second
    cases pushed.symm.trans again
    exact ⟨rfl, rfl, rfl, rfl, rfl⟩
  case ret =>
    obtain ⟨address, stack, popped, rfl⟩ := execute_returned op first
    obtain ⟨_, _, again, rfl⟩ := execute_returned op second
    cases popped.symm.trans again
    exact ⟨rfl, rfl, rfl, rfl, rfl⟩
  case draw =>
    obtain ⟨rows, read, rfl⟩ := execute_drawn op first
    obtain ⟨_, again, rfl⟩ := execute_drawn op second
    cases read.symm.trans again
    exact ⟨rfl, rfl, rfl, rfl, rfl⟩
  case storeDecimal =>
    obtain ⟨memory, written, rfl⟩ := execute_storedDecimal op first
    obtain ⟨_, again, rfl⟩ := execute_storedDecimal op second
    cases written.symm.trans again
    exact ⟨rfl, rfl, rfl, rfl, rfl⟩
  case storeRegisters =>
    obtain ⟨memory, written, rfl⟩ := execute_storedRegisters op first
    obtain ⟨_, again, rfl⟩ := execute_storedRegisters op second
    cases written.symm.trans again
    exact ⟨rfl, rfl, rfl, rfl, rfl⟩
  case loadRegisters =>
    obtain ⟨data, read, rfl⟩ := execute_loadedRegisters op first
    obtain ⟨_, again, rfl⟩ := execute_loadedRegisters op second
    cases read.symm.trans again
    exact ⟨rfl, rfl, rfl, rfl, rfl⟩
  -- the others are not broken off, and what they leave can be read from them
  all_goals
    unfold execute at first second
    rw [EStateM.run_bind, EStateM.run_get, op] at first second
    injection first with _ first
    injection second with _ second
    subst first second
    exact ⟨rfl, rfl, rfl, rfl, rfl⟩

theorem sameView_begun (same : SameView m n) :
    SameView (m.begun timers) (n.begun others) :=
  ⟨same.registers, same.memory, same.screen, same.fault, same.waiting⟩

theorem sameView_record (same : SameView m n) (line other : TraceLine) :
    SameView (m.record line) (n.record other) := by
  rw [record_eq, record_eq]
  exact ⟨same.registers, same.memory, same.screen, same.fault, same.waiting⟩

theorem sameView_failed (same : SameView m n) (pc : Int) (v : Violation) :
    SameView (m.failed pc v) (n.failed pc v) := by
  rw [failed, failed, record_eq, record_eq]
  exact ⟨same.registers, same.memory, same.screen, rfl, same.waiting⟩

/-- A step that carries out none of the five comes to the same on both machines, whatever time it is
given, and neither begins to wait. -/
theorem StepResult.sameView (first : StepResult m timers a o) (second : StepResult n others b p)
    (same : SameView m n) (free : m.waiting = none) (omits : m.Omits Operation.environmental) :
    p = o ∧ SameView a b ∧ a.waiting = none := by
  have begun : SameView (m.begun timers) (n.begun others) := sameView_begun same
  cases first with
  | stopped _ fault =>
    obtain ⟨rfl, rfl⟩ := result_stopped (same.fault.trans fault) second
    exact ⟨rfl, ⟨same.registers, same.memory, same.screen, same.fault, same.waiting⟩, free⟩
  | idle _ _ waiting | resumed _ _ _ waiting =>
    rw [free] at waiting
    cases waiting
  | unfetched fault waiting missing =>
    obtain ⟨rfl, rfl⟩ := result_unfetched (same.fault.trans fault) (same.waiting.trans waiting)
      (same.fetched.trans missing) second
    rw [same.registers]
    refine ⟨rfl, sameView_failed begun _ _, ?_⟩
    rw [failed, record_eq]
    exact free
  | ended w fault waiting fetched zero =>
    have due := same.due.trans ((due_iff m w).mpr ⟨fault, waiting, fetched⟩)
    obtain ⟨rfl, rfl⟩ := result_ended due zero second
    exact ⟨rfl, begun, free⟩
  | refused w v fault waiting fetched proper obstacle =>
    have due := same.due.trans ((due_iff m w).mpr ⟨fault, waiting, fetched⟩)
    obtain ⟨rfl, rfl⟩ := result_refused due proper (obstacle.congr same.registers) second
    rw [same.registers]
    refine ⟨rfl, sameView_failed (sameView_record begun _ _) _ _, ?_⟩
    rw [failed, record_eq, record_eq]
    exact free
  | carried w _ fault waiting fetched proper unhindered run _ =>
    have carries : m.Carries w := ⟨(due_iff m w).mpr ⟨fault, waiting, fetched⟩, proper, unhindered⟩
    obtain ⟨rfl, again⟩ := result_carries (carries.congr same) second
    have other := omits w carries
    refine ⟨rfl, execute_sameView (sameView_record begun _ _) other run again, ?_⟩
    have parked : w.operation ≠ .awaitKey := fun op => other (by rw [op]; decide)
    rw [(execute_footprint run).waiting parked, record_waiting]
    exact free

end Step

section Session
variable {m n : Machine} {s : Stage} {later : List Stage}

/-- An action on the environment that carries out no step does not change what a program sees. -/
theorem perform_sameView (m : Machine) (a : HostAction) (environs : a.Environs)
    (none : m.stage? a = none) : SameView m (m.perform a) := by
  cases a with
  | step elapsed =>
    rw [perform_unstaged m elapsed none]
    exact ⟨rfl, rfl, rfl, rfl, rfl⟩
  | keypad a =>
    simp only [perform]
    split <;> exact ⟨rfl, rfl, rfl, rfl, rfl⟩
  | addBreakpoint address =>
    obtain ⟨breakpoints, added⟩ := m.addBreakpoint_eq address
    rw [perform, added]
    exact ⟨rfl, rfl, rfl, rfl, rfl⟩
  | reset | load _ | setRegister _ _ | setIndex _ | setCounter _ | write _ _ =>
    exact environs.elim
  | _ => exact ⟨rfl, rfl, rfl, rfl, rfl⟩

/-- The first step of a session finds what a program sees as it was, and the other steps are those of
a session from what it leaves. -/
theorem stages_first (m : Machine) (actions : List HostAction) (environs : ∀ a ∈ actions, a.Environs)
    (steps : m.stages actions = s :: later) :
    SameView m s.start ∧ (∃ elapsed, s.start.step elapsed = .ok s.result) ∧
      ∃ rest, (∀ a ∈ rest, a.Environs) ∧ s.result.machine.stages rest = later := by
  induction actions generalizing m with
  | nil => cases steps
  | cons a rest ih =>
    have environsRest : ∀ b ∈ rest, b.Environs :=
      fun b member => environs b (List.mem_cons_of_mem a member)
    rw [stages] at steps
    cases stage : m.stage? a with
    | none =>
      rw [stage] at steps
      obtain ⟨same, others⟩ := ih (m.perform a) environsRest steps
      exact ⟨(m.perform_sameView a (environs a List.mem_cons_self) stage).trans same, others⟩
    | some first =>
      rw [stage] at steps
      obtain ⟨rfl, after⟩ := List.cons.inj steps
      obtain ⟨elapsed, _, rfl, stepped, left⟩ := m.stage?_eq_some a first stage
      exact ⟨⟨rfl, rfl, rfl, rfl, rfl⟩, ⟨elapsed, stepped⟩, rest, environsRest, left ▸ after⟩

/-- Two machines of which a program sees the same, and which wait for no key, are stepped equally
often by two hosts, each with its own random source, keys, timers, trace and breakpoints and its own
times.  If the first one carries out none of the five instructions, each step comes to the same on
both, and a program still sees the same of them. -/
theorem environment_unseen (m n : Machine) (actions others : List HostAction) (same : SameView m n)
    (free : m.waiting = none) (environs : ∀ a ∈ actions ++ others, a.Environs)
    (count : (m.stages actions).length = (n.stages others).length)
    (omits : ∀ s ∈ m.stages actions, s.start.Omits Operation.environmental) :
    List.Forall₂ (fun s t => t.result.outcome = s.result.outcome ∧
        SameView s.result.machine t.result.machine)
      (m.stages actions) (n.stages others) := by
  have firstEnvirons : ∀ a ∈ actions, a.Environs :=
    fun a member => environs a (List.mem_append_left others member)
  have secondEnvirons : ∀ a ∈ others, a.Environs :=
    fun a member => environs a (List.mem_append_right actions member)
  clear environs
  -- the actions between two steps differ in number, so the induction is on the steps
  generalize steps : m.stages actions = stages at *
  induction stages generalizing m n actions others with
  | nil =>
    rw [List.eq_nil_of_length_eq_zero count.symm]
    exact .nil
  | cons s later ih =>
    cases stepsToo : n.stages others with
    | nil =>
      rw [stepsToo] at count
      cases count
    | cons t laterToo =>
      obtain ⟨before, ⟨elapsed, stepped⟩, rest, restEnvirons, rfl⟩ :=
        m.stages_first actions firstEnvirons steps
      obtain ⟨beforeToo, ⟨elapsedToo, steppedToo⟩, restToo, restEnvironsToo, rfl⟩ :=
        n.stages_first others secondEnvirons stepsToo
      obtain ⟨_, _, _, result⟩ := s.start.step_result elapsed s.result stepped
      obtain ⟨_, _, _, resultToo⟩ := t.start.step_result elapsedToo t.result steppedToo
      obtain ⟨outcome, after, freeAfter⟩ := result.sameView resultToo
        ((before.symm.trans same).trans beforeToo) (before.waiting.trans free)
        (omits s List.mem_cons_self)
      refine .cons ⟨outcome, after⟩ ?_
      refine ih _ _ rest restToo after freeAfter restEnvirons restEnvironsToo rfl ?_ ?_
      · rw [stepsToo] at count
        exact Nat.succ.inj count
      · exact fun u member => omits u (List.mem_cons_of_mem s member)

end Session

/-! An addition in two environments. -/

/-- A machine at an addition. -/
def atAddition : Machine := (fresh (.keypad {}) (.repeating [])).session [.load [0x70, 0x01]]

/-- A machine at the same addition, with other random values, a buzzer that sounds, and a trace. -/
def atTracedAddition : Machine :=
  (fresh (.keypad {}) (.repeating [7])).session
    [.load [0x70, 0x01], .setSound 3, .switchTrace true, .addBreakpoint 0x200]

theorem atAddition_carries : atAddition.Carries (.ofBytes 0x70 0x01) := by
  have fetched : atAddition.fetched? = some (.ofBytes 0x70 0x01) :=
    fetched_load _ Memory.initial 0x70 0x01 [] rfl rfl
  exact carries_of_operation ((due_iff _ _).mpr ⟨rfl, rfl, fetched⟩) (by decide)

/-- A key that is pressed and time that passes make no difference to it. -/
theorem environment_unseen_addition :
    ∃ t u, atAddition.step Timers.noTime = .ok t ∧
      (atTracedAddition.perform (.keypad (.press 5))).step (.number (.whole 17)) = .ok u ∧
      u.outcome = t.outcome ∧ u.machine.registers = t.machine.registers := by
  have given := ({ sound := 3 } : Timers).update_whole (.number (.whole 17)) 0 17
    (Nat.zero_mul _).symm (by decide) rfl (by decide) (by unfold Reading.TooLarge; decide +kernel)
  obtain ⟨t, stepped, _⟩ := atAddition.step_success _ _ _ (Timers.update_noTime {} rfl)
  obtain ⟨u, steppedToo, _⟩ :=
    (atTracedAddition.perform (.keypad (.press 5))).step_success _ _ _ given
  have first : atAddition.stages [.step Timers.noTime] = [⟨atAddition, t⟩] := by
    simp only [stages, stage?, stepped, Except.toOption, Option.map_some, Option.toList_some,
      List.append_nil]
  have second : atTracedAddition.stages [.keypad (.press 5), .step (.number (.whole 17))] =
      [⟨atTracedAddition.perform (.keypad (.press 5)), u⟩] := by
    simp only [stages, stage?, steppedToo, Except.toOption, Option.map_some, Option.toList_some,
      Option.toList_none, List.append_nil, List.nil_append]
  have omits : ∀ s ∈ atAddition.stages [.step Timers.noTime],
      s.start.Omits Operation.environmental := by
    rw [first]
    intro s member w carries
    cases List.mem_singleton.mp member
    rw [carries.unique atAddition_carries]
    decide
  have same := environment_unseen atAddition atTracedAddition [.step Timers.noTime]
    [.keypad (.press 5), .step (.number (.whole 17))] ⟨rfl, rfl, rfl, rfl, rfl⟩ rfl
    (by simp [HostAction.Environs]) (by rw [first, second]; rfl) omits
  rw [first, second] at same
  obtain ⟨outcome, after⟩ := (List.forall₂_cons.mp same).1
  exact ⟨t, u, stepped, steppedToo, outcome, after.registers⟩

end Machine
end Chip8
