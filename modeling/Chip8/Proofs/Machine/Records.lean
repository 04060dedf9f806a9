import Chip8.Proofs.Machine.Session
import Chip8.Proofs.Machine.Unseen

/-!
# What a machine keeps about itself

A step counts itself, and stops the machine at a fault that it comes to; a machine that has stopped
reports the fault again and counts no step.  Only a host loads a program, and a reset loads the last
one again.
-/
namespace Chip8

/-- The image that an action loads, if it loads one. -/
def HostAction.loaded? : HostAction → Option (List UInt8)
  | .load image => if image.length ≤ Memory.programCapacity then some image else none
  | _ => none

/-- The last image that a session loads, if it loads one. -/
def lastLoaded? (actions : List HostAction) : Option (List UInt8) :=
  (actions.filterMap HostAction.loaded?).getLast?

namespace Machine
variable {m after : Machine} {timers : Timers} {o : Outcome}

/-- Whether what a machine has stopped at, if it has stopped, is a fault. -/
def ProperFault (m : Machine) : Prop := ∀ o, m.fault = some o → o.isFault

/-- A step counts itself, and a fault that it comes to is the one at which the machine stops. -/
theorem StepResult.counted (result : StepResult m timers after o) (fault : m.fault = none) :
    after.steps = m.steps + 1 ∧ (after.fault = none ∨ after.fault = some o ∧ o.isFault) := by
  cases result with
  | stopped _ latched =>
    rw [fault] at latched
    cases latched
  | idle | resumed | ended => exact ⟨rfl, .inl fault⟩
  | unfetched =>
    rw [failed, record_eq]
    exact ⟨rfl, .inr ⟨rfl, rfl⟩⟩
  | refused =>
    rw [failed, record_eq, record_eq]
    exact ⟨rfl, .inr ⟨rfl, rfl⟩⟩
  | carried w after _ _ _ _ _ run _ =>
    have same := execute_sameRecords _ after w run
    rw [record_eq] at same
    exact ⟨same.steps, .inl (same.fault.trans fault)⟩

/-- A machine that has stopped at a fault reports it again and counts no step. -/
theorem StepResult.latched (latched : Outcome) (result : StepResult m timers after o)
    (fault : m.fault = some latched) :
    o = latched ∧ after.steps = m.steps ∧ after.fault = some latched := by
  obtain ⟨rfl, rfl⟩ := result_stopped fault result
  exact ⟨rfl, rfl, fault⟩

theorem StepResult.properFault (result : StepResult m timers after o) (proper : m.ProperFault) :
    after.ProperFault := by
  intro found latched
  cases fault : m.fault with
  | none =>
    rcases (result.counted fault).2 with free | ⟨stopped, isFault⟩
    · rw [free] at latched
      cases latched
    · rw [stopped] at latched
      cases latched
      exact isFault
  | some before =>
    rw [(result.latched before fault).2.2] at latched
    cases latched
    exact proper found fault

theorem perform_properFault (m : Machine) (a : HostAction) (proper : m.ProperFault) :
    (m.perform a).ProperFault := by
  cases a with
  | step elapsed =>
    rcases m.perform_step elapsed with same | ⟨timers, o, result⟩
    · rw [same]
      exact proper
    · exact result.properFault proper
  | reset =>
    intro o latched
    cases latched
  | keypad a =>
    simp only [perform]
    split <;> exact proper
  | _ =>
    rw [ProperFault, (m.perform_untouched _ id).fault]
    exact proper

/-- Whatever a host does to a machine, it stops at faults alone. -/
theorem Reachable.properFault (reachable : m.Reachable) : m.ProperFault := by
  obtain ⟨input, random, actions, rfl⟩ := reachable
  refine session_kept ProperFault actions (fun m a _ => perform_properFault m a) _ ?_
  intro o latched
  cases latched

/-! The program that a reset loads again. -/

theorem StepResult.program (result : StepResult m timers after o) : after.program = m.program := by
  cases result with
  | stopped | idle | resumed | ended => rfl
  | unfetched =>
    rw [failed, record_eq]
    rfl
  | refused =>
    rw [failed, record_eq, record_eq]
    rfl
  | carried w after _ _ _ _ _ run _ =>
    have same := execute_sameRecords _ after w run
    rw [record_eq] at same
    exact same.program

/-- An image that does not fit above `$200` is refused, and any other one is loaded. -/
theorem load_eq (m : Machine) (image : List UInt8) :
    m.load image =
      if image.length ≤ Memory.programCapacity then
        .ok { m with
          memory := ⟨Memory.store m.memory.cells Memory.programStart image⟩, program := image }
      else .error ⟨image.length⟩ := by
  unfold load Memory.load
  by_cases fits : image.length ≤ Memory.programCapacity <;> simp only [fits, if_true, if_false]

theorem perform_program (m : Machine) (a : HostAction) :
    (m.perform a).program = a.loaded?.getD m.program := by
  cases a with
  | step elapsed =>
    rcases m.perform_step elapsed with same | ⟨timers, o, result⟩
    · rw [same]
      rfl
    · exact result.program
  | load image =>
    by_cases fits : image.length ≤ Memory.programCapacity <;>
    · simp only [perform, load_eq, HostAction.loaded?, fits, if_true, if_false]
      rfl
  | keypad _ | setRegister _ _ | write _ _ =>
    simp only [perform]
    split <;> rfl
  | addBreakpoint address =>
    obtain ⟨breakpoints, added⟩ := m.addBreakpoint_eq address
    rw [perform, added]
    rfl
  | _ => rfl

/-- The program of a machine is the last image that a host has loaded. -/
theorem session_program (m : Machine) (actions : List HostAction) :
    (m.session actions).program = (lastLoaded? actions).getD m.program := by
  induction actions generalizing m with
  | nil => rfl
  | cons a rest ih =>
    rw [session_cons, ih, perform_program, lastLoaded?, lastLoaded?]
    cases loaded : a.loaded? with
    | none => rw [List.filterMap_cons_none loaded, Option.getD_none]
    | some image =>
      rw [List.filterMap_cons_some loaded, List.getLast?_cons, Option.getD_some]
      rfl

end Machine
end Chip8
