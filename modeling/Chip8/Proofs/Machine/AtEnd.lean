import Chip8.Proofs.Machine.Elapsed
import Chip8.Proofs.Machine.Records
import Chip8.Proofs.Machine.Stages
import Chip8.Proofs.Machine.TimerHistory

/-!
# After the last instruction

A machine that has stopped at a fault, or has come to the zero word, is at its end: every later step
comes to the same outcome and carries nothing out.  Time still passes, and the host may still press
keys, but neither brings the machine on.
-/
namespace Chip8

/-- Updates leave a timer with what is left of its setting, also those that are refused. -/
theorem Timers.Follows.givenAll {t : Timers} {k : Timer} {s : Setting} (follows : t.Follows k s)
    (readings : List Reading) : (readings.foldl Timers.given t).Follows k s := by
  induction readings generalizing t with
  | nil => exact follows
  | cons r rest ih =>
    refine ih ?_
    unfold Timers.given
    split
    · next accepted => exact follows.update accepted
    · exact follows

namespace Machine

/-- Whether a machine can come to nothing but one outcome. -/
inductive AtEnd (m : Machine) : Outcome → Prop where
  | stopped (o : Outcome) (fault : m.fault = some o) : AtEnd m o
  | ended (w : Opcode) (due : m.due? = some w) (zero : w.value = 0) : AtEnd m .halted

/-- What has not changed of a machine at its end: all that a program can see but the time and the
keys, and the fault. -/
structure Rests (m after : Machine) : Prop where
  registers : after.registers = m.registers
  memory : after.memory = m.memory
  screen : after.screen = m.screen
  waiting : after.waiting = m.waiting
  random : after.random = m.random
  fault : after.fault = m.fault

theorem Rests.refl (m : Machine) : Rests m m := ⟨rfl, rfl, rfl, rfl, rfl, rfl⟩

theorem Rests.trans {m n after : Machine} (first : Rests m n) (second : Rests n after) :
    Rests m after :=
  ⟨second.registers.trans first.registers, second.memory.trans first.memory,
    second.screen.trans first.screen, second.waiting.trans first.waiting,
    second.random.trans first.random, second.fault.trans first.fault⟩

/-- A machine that rests stays at its end. -/
theorem Rests.atEnd {m after : Machine} {o : Outcome} (rests : Rests m after) (atEnd : m.AtEnd o) :
    after.AtEnd o := by
  cases atEnd with
  | stopped _ fault => exact .stopped o (rests.fault.trans fault)
  | ended w due zero =>
    have same : after.due? = m.due? := by
      unfold due? fetched?
      rw [rests.registers, rests.memory, rests.waiting, rests.fault]
    exact .ended w (same.trans due) zero

section Step
variable {m after : Machine} {timers : Timers} {o p : Outcome}

/-- An outcome other than to go on is the end. -/
theorem StepResult.atEnd (result : StepResult m timers after o) (final : o.kind ≠ .running) :
    after.AtEnd o := by
  cases result with
  | stopped _ fault => exact .stopped o fault
  | idle | resumed | carried => exact absurd rfl final
  | unfetched | refused => exact .stopped _ rfl
  | ended w fault waiting fetched zero =>
    exact .ended w ((due_iff _ w).mpr ⟨fault, waiting, fetched⟩) zero

/-- A step at the end comes to the same again.  It takes its time, and counts itself unless the
machine has stopped at a fault. -/
theorem AtEnd.result (atEnd : m.AtEnd o) (result : StepResult m timers after p) :
    p = o ∧ Rests m after ∧ after.timers = timers ∧
      after.steps = m.steps + if m.fault = none then 1 else 0 := by
  cases atEnd with
  | stopped _ fault =>
    obtain ⟨again, rfl⟩ := result_stopped fault result
    exact ⟨again, ⟨rfl, rfl, rfl, rfl, rfl, rfl⟩, rfl, by simp [fault]⟩
  | ended w due zero =>
    obtain ⟨again, rfl⟩ := result_ended due zero result
    have fault := ((due_iff m w).mp due).1
    exact ⟨again, ⟨rfl, rfl, rfl, rfl, rfl, rfl⟩, rfl, by simp [fault, begun]⟩

/-- So at the end a step is carried out whenever the timers accept its time. -/
theorem AtEnd.step (atEnd : m.AtEnd o) (r : Reading) (ticks : Nat)
    (accepted : m.timers.update r = .ok (timers, ticks)) :
    ∃ u, m.step r = .ok u ∧ u.outcome = o ∧ u.machine.timers = timers := by
  obtain ⟨u, stepped, result⟩ := m.step_success r timers ticks accepted
  obtain ⟨same, _, given, _⟩ := atEnd.result result
  exact ⟨u, stepped, same, given⟩

end Step

section Session
variable {m : Machine} {o : Outcome}

/-- Neither a step nor the keypad ends the rest, and only steps that are carried out are counted. -/
theorem AtEnd.perform (atEnd : m.AtEnd o) (a : HostAction) (continues : a.Continues) :
    Rests m (m.perform a) ∧ (∀ s ∈ m.stage? a, s.result.outcome = o) ∧
      (m.perform a).steps =
        m.steps + if m.fault = none then (m.stage? a).toList.length else 0 := by
  cases stage : m.stage? a with
  | some s =>
    obtain ⟨elapsed, _, _, stepped, left⟩ := m.stage?_eq_some a s stage
    obtain ⟨timers, _, _, result⟩ := m.step_result elapsed s.result stepped
    obtain ⟨same, rests, _, steps⟩ := atEnd.result result
    rw [left]
    exact ⟨rests, by simp [same], steps⟩
  | none =>
    cases a with
    | step elapsed =>
      rw [m.perform_unstaged elapsed stage]
      exact ⟨.refl m, by simp, by simp⟩
    | keypad a =>
      simp only [Machine.perform]
      split
      · exact ⟨⟨rfl, rfl, rfl, rfl, rfl, rfl⟩, by simp, by simp⟩
      · exact ⟨.refl m, by simp, by simp⟩
    | _ => exact continues.elim

/-- A machine at its end rests for a whole session. -/
theorem AtEnd.session (atEnd : m.AtEnd o) (actions : List HostAction)
    (continues : ∀ a ∈ actions, a.Continues) :
    Rests m (m.session actions) ∧ (∀ s ∈ m.stages actions, s.result.outcome = o) ∧
      (m.session actions).steps =
        m.steps + if m.fault = none then (m.stages actions).length else 0 := by
  induction actions generalizing m with
  | nil => exact ⟨.refl m, by simp [stages], by simp [Machine.session, stages]⟩
  | cons a rest ih =>
    obtain ⟨first, outcome, counted⟩ := atEnd.perform a (continues a List.mem_cons_self)
    obtain ⟨later, outcomes, total⟩ :=
      ih (first.atEnd atEnd) fun b member => continues b (List.mem_cons_of_mem a member)
    refine ⟨first.trans later, ?_, ?_⟩
    · intro s member
      rcases List.mem_append.mp member with now | after
      · exact outcome s (Option.mem_toList.mp now)
      · exact outcomes s after
    · rw [session_cons, total, counted, first.fault, stages, List.length_append]
      split <;> omega

/-- At its end a machine carries out no instruction that sets a timer. -/
theorem AtEnd.setsNoTimer (atEnd : m.AtEnd o) (actions : List HostAction)
    (continues : ∀ a ∈ actions, a.Continues) : m.SetsNoTimer actions := by
  rintro before r rest w rfl due
  have rests := (atEnd.session before fun a member =>
    continues a (List.mem_append_left _ member)).1
  cases rests.atEnd atEnd with
  | stopped o fault =>
    rw [((due_iff _ w).mp due).1] at fault
    cases fault
  | ended v again zero =>
    rw [due] at again
    cases again
    rw [w.operation_of_fits .halt zero]
    decide

end Session

/-- A machine whose step ends the program or comes to a fault comes to the same outcome at every
later step whose time the timers accept, whatever the host does to the keypad.  Nothing that the
program can see changes any more but the time, which every step takes, and the keys; a step counts
itself after the end of the program, and not after a fault. -/
theorem end_absorbing (m : Machine) (reachable : m.Reachable) (elapsed : Reading) (t : Transition)
    (stepped : m.step elapsed = .ok t) (final : t.outcome = .halted ∨ t.outcome.isFault)
    (actions : List HostAction) (continues : ∀ a ∈ actions, a.Continues) :
    let last := t.machine
    let after := last.session actions
    (∀ s ∈ last.stages actions, s.result.outcome = t.outcome) ∧
    (∀ r timers ticks, after.timers.update r = .ok (timers, ticks) →
      ∃ u, after.step r = .ok u ∧ u.outcome = t.outcome ∧ u.machine.timers = timers) ∧
    Rests last after ∧
    after.timers = (actions.filterMap HostAction.reading?).foldl Timers.given last.timers ∧
    (∀ k, last.timers.ticks ≤ after.timers.ticks ∧
      (after.timers.read k).toNat =
        (last.timers.read k).toNat - (after.timers.ticks - last.timers.ticks)) ∧
    (t.outcome = .halted → after.steps = last.steps + (last.stages actions).length) ∧
    (t.outcome.isFault → after.steps = last.steps) := by
  intro last after
  obtain ⟨timers, _, _, result⟩ := m.step_result elapsed t stepped
  have ending : t.outcome.kind ≠ .running := by
    rcases final with halted | faulted
    · rw [halted]
      decide
    · rw [of_decide_eq_true faulted]
      decide
  have atEnd : last.AtEnd t.outcome := result.atEnd ending
  have proper := result.properFault reachable.properFault
  obtain ⟨rests, outcomes, steps⟩ := atEnd.session actions continues
  have given := last.session_timers actions continues (atEnd.setsNoTimer actions continues)
  refine ⟨outcomes, fun r _ => (rests.atEnd atEnd).step r, rests, given, ?_, ?_, ?_⟩
  · intro k
    have left := (Timers.follows_self last.timers k).givenAll
      (actions.filterMap HostAction.reading?)
    rw [← given] at left
    exact ⟨left.since, left.left⟩
  -- a latched outcome is a fault, so a machine that ends its program has none
  · intro halted
    rw [halted] at atEnd
    have free : last.fault = none := by
      cases atEnd with
      | stopped _ fault => cases proper _ fault
      | ended w due _ => exact ((due_iff _ w).mp due).1
    rw [steps, if_pos free]
  · intro faulted
    have latched : last.fault ≠ none := by
      intro free
      generalize t.outcome = o at atEnd faulted
      cases atEnd with
      | stopped _ fault =>
        rw [free] at fault
        cases fault
      | ended => cases faulted
    rw [steps, if_neg latched, Nat.add_zero]

/-! A return from nowhere, with the delay timer running. -/

/-- The machine at the return. -/
def atLastReturn : Machine :=
  (fresh (.keypad {}) (.repeating [])).session [.load [0x00, 0xEE], .setDelay 5]

/-- What the host does after it: two steps of 17 milliseconds, and a key in between. -/
def afterwards : List HostAction :=
  [.step (.number (.whole 17)), .keypad (.press 3), .step (.number (.whole 17))]

/-- The fault is reported again, the delay counts down, and no step is counted. -/
theorem end_absorbing_return :
    ∃ t, atLastReturn.step Timers.noTime = .ok t ∧
      t.outcome = faultAt 0x200 (.stack .underflow) ∧
      (∀ s ∈ t.machine.stages afterwards, s.result.outcome = t.outcome) ∧
      (t.machine.session afterwards).registers = t.machine.registers ∧
      (t.machine.session afterwards).timers.delay.toNat = 3 ∧
      (t.machine.session afterwards).steps = 1 := by
  have fetched : atLastReturn.fetched? = some (.ofBytes 0x00 0xEE) :=
    fetched_load _ Memory.initial 0x00 0xEE [] rfl rfl
  obtain ⟨t, stepped, result⟩ := atLastReturn.step_success Timers.noTime { delay := 5 } 0
    (Timers.update_noTime { delay := 5 } rfl)
  obtain ⟨outcome, left⟩ := result_refused ((due_iff _ _).mpr ⟨rfl, rfl, fetched⟩) (by decide)
    (.empty (by decide) rfl) result
  have faulted : t.outcome.isFault := by
    rw [outcome]
    rfl
  obtain ⟨outcomes, _, rests, given, _, _, steps⟩ := end_absorbing atLastReturn ⟨_, _, _, rfl⟩
    Timers.noTime t stepped (.inr faulted) afterwards (by simp [afterwards, HostAction.Continues])
  have exact : ∀ r ∈ afterwards.filterMap HostAction.reading?, r.Exact := by
    simp only [afterwards, HostAction.reading?, List.filterMap_cons, List.filterMap_nil,
      List.mem_cons, List.not_mem_nil, or_false]
    rintro r (rfl | rfl) <;> exact ⟨17, rfl, by decide⟩
  have started : t.machine.timers = { delay := 5 } := by
    rw [left]
    rfl
  rw [started] at given
  have counted := ((Timers.elapsed_set 5 0).givenAll _ exact).1.delay
  rw [← given] at counted
  have made : t.machine.steps = 1 := by
    rw [left]
    rfl
  exact ⟨t, stepped, outcome, outcomes, rests.registers, counted, (steps faulted).trans made⟩

end Machine
end Chip8
