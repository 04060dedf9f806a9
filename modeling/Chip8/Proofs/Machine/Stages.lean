import Chip8.Proofs.Machine.Session

/-!
# The steps of a session

The steps that a session carries out, in order, each with the machine before it and what it came to.
A step that the timers refuse is none of them: it has changed nothing.
-/
namespace Chip8

/-- A step that was carried out: the machine before it, and what it came to. -/
structure Stage where
  start : Machine
  result : Transition

namespace Machine

/-- The step that an action carries out, if it carries one out. -/
def stage? (m : Machine) : HostAction → Option Stage
  | .step elapsed => (m.step elapsed).toOption.map (⟨m, ·⟩)
  | _ => none

/-- The steps that a session carries out, in order. -/
def stages (m : Machine) : List HostAction → List Stage
  | [] => []
  | a :: rest => (m.stage? a).toList ++ (m.perform a).stages rest

/-- An action that carries out a step is one, and leaves what that came to. -/
theorem stage?_eq_some (m : Machine) (a : HostAction) (s : Stage) (stage : m.stage? a = some s) :
    ∃ elapsed, a = .step elapsed ∧ s.start = m ∧ m.step elapsed = .ok s.result ∧
      m.perform a = s.result.machine := by
  cases a with
  | step elapsed =>
    cases stepped : m.step elapsed with
    | error e =>
      simp only [stage?, stepped, Except.toOption, Option.map_none] at stage
      cases stage
    | ok t =>
      simp only [stage?, stepped, Except.toOption, Option.map_some] at stage
      cases stage
      exact ⟨elapsed, rfl, rfl, stepped, by simp only [perform, stepped]⟩
  | _ => cases stage

/-- Each step of a session leaves what it came to. -/
theorem stages_stepped (m : Machine) (actions : List HostAction) (s : Stage)
    (member : s ∈ m.stages actions) : ∃ elapsed, s.start.step elapsed = .ok s.result := by
  induction actions generalizing m with
  | nil => cases member
  | cons a rest ih =>
    rcases List.mem_append.mp member with now | later
    · obtain ⟨elapsed, _, rfl, stepped, _⟩ := m.stage?_eq_some a s (Option.mem_toList.mp now)
      exact ⟨elapsed, stepped⟩
    · exact ih (m.perform a) later

/-- A step that is refused leaves the machine as it was. -/
theorem perform_unstaged (m : Machine) (elapsed : Reading)
    (none : m.stage? (.step elapsed) = none) : m.perform (.step elapsed) = m := by
  cases stepped : m.step elapsed with
  | error e => simp only [perform, stepped]
  | ok t =>
    simp only [stage?, stepped, Except.toOption, Option.map_some] at none
    cases none

end Machine
end Chip8
