import Chip8.Proofs.Machine.Records

/-!
# Machines that cannot be told apart

Two machines are alike when they differ at most in their breakpoints and in the source of their
random values, and the sources have the same values to give.  Whatever a host does to both of them,
every step comes to the same outcome and they stay alike.
-/
namespace Chip8

namespace RandomSource

/-- The source after a number of draws. -/
def drawn (s : RandomSource) : Nat → RandomSource
  | 0 => s
  | n + 1 => s.draw.2.drawn n

/-- The values that a source has to give. -/
def value (s : RandomSource) (n : Nat) : Int := (s.drawn n).draw.1

/-- Whether two sources have the same values to give. -/
def Agrees (s t : RandomSource) : Prop := ∀ n, s.value n = t.value n

theorem Agrees.value {s t : RandomSource} (agrees : s.Agrees t) : s.draw.1 = t.draw.1 := agrees 0

theorem Agrees.draw {s t : RandomSource} (agrees : s.Agrees t) : s.draw.2.Agrees t.draw.2 :=
  fun n => agrees (n + 1)

theorem drawn_cycle (values : Array Int) (next n : Nat) :
    (cycle values next).drawn n = .cycle values (next + n) := by
  induction n generalizing next with
  | zero => rfl
  | succ n ih =>
    have one : (cycle values next).draw.2 = .cycle values (next + 1) := rfl
    rw [drawn, one, ih, Nat.add_assoc, Nat.add_comm 1 n]

end RandomSource

namespace Machine

/-- Whether a machine is another one with other breakpoints and another source of the same random
values. -/
inductive Alike (m : Machine) : Machine → Prop where
  | differing (random : RandomSource) (breakpoints : List UInt16)
    (agrees : m.random.Agrees random) : Alike m { m with random, breakpoints }

/-- Whether two steps came to the same and left machines that are alike. -/
structure SameStep (t u : Transition) : Prop where
  machine : t.machine.Alike u.machine
  outcome : u.outcome = t.outcome
  notices : u.notices = t.notices

/-- What two runs of an effect have in common. -/
inductive AlikeResults :
    EStateM.Result Violation Machine Unit → EStateM.Result Violation Machine Unit → Prop where
  | ok (a b : Machine) (alike : a.Alike b) : AlikeResults (.ok () a) (.ok () b)
  | error (v : Violation) (a b : Machine) (alike : a.Alike b) : AlikeResults (.error v a) (.error v b)

section Step
variable {m n : Machine}

/-- A blind effect does the same to both machines. -/
theorem Blind.alike {e : Effect Unit} (blind : Blind e) (alike : m.Alike n) :
    AlikeResults (e.run m) (e.run n) := by
  obtain ⟨random, breakpoints, agrees⟩ := alike
  have other := blind m { m with random, breakpoints }
  have unseen : m.withUnseen { m with random, breakpoints } = { m with random, breakpoints } := rfl
  have kept := blind.kept m
  rw [unseen] at other
  rw [other]
  cases run : e.run m with
  | ok _ after =>
    rw [run] at kept
    injection kept with _ kept
    rw [kept]
    exact .ok _ _ (.differing random breakpoints agrees)
  | error v left =>
    rw [run] at kept
    injection kept with _ kept
    rw [kept]
    exact .error v _ _ (.differing random breakpoints agrees)

/-- So does every instruction, since the next random values are the same. -/
theorem execute_alike (w : Opcode) (alike : m.Alike n) :
    AlikeResults ((execute w).run m) ((execute w).run n) := by
  by_cases op : w.operation = .random
  · rw [execute_random m w op, execute_random n w op]
    obtain ⟨random, breakpoints, agrees⟩ := alike
    refine .ok _ _ ?_
    simp only [randomise, agrees.value]
    exact .differing random.draw.2 breakpoints agrees.draw
  · exact (blind_execute w op).alike alike

theorem record_alike (line : TraceLine) (alike : m.Alike n) :
    (m.record line).Alike (n.record line) := by
  obtain ⟨random, breakpoints, agrees⟩ := alike
  rw [record_eq, record_eq]
  exact .differing random breakpoints agrees

theorem stopAt_alike (pc : Int) (v : Violation) (notices : List Notice) (alike : m.Alike n) :
    SameStep (m.stopAt pc v notices) (n.stopAt pc v notices) := by
  obtain ⟨random, breakpoints, agrees⟩ := alike
  refine ⟨?_, rfl, rfl⟩
  simp only [stopAt, record_eq]
  exact .differing random breakpoints agrees

theorem fetchAndExecute_alike (alike : m.Alike n) :
    SameStep m.fetchAndExecute n.fetchAndExecute := by
  have registers : n.registers = m.registers := by cases alike; rfl
  have memory : n.memory = m.memory := by cases alike; rfl
  unfold fetchAndExecute
  simp only [registers, memory]
  rcases m.memory.readPair m.registers.pc with e | ⟨high, low⟩
  · exact stopAt_alike _ _ _ alike
  · dsimp only
    split
    · exact ⟨alike, rfl, rfl⟩
    · have same := execute_alike (.ofBytes high low)
        (record_alike (.executed m.registers.pc (.ofBytes high low)) alike)
      -- what the two instructions came to decides the rest of the step
      generalize (execute (.ofBytes high low)).run (m.record _) = first,
        (execute (.ofBytes high low)).run (n.record _) = second at same
      cases same with
      | ok a b after => exact ⟨after, rfl, rfl⟩
      | error v a b left => exact stopAt_alike _ _ _ left

theorem serviceWait_alike (x : Fin 16) (alike : m.Alike n) :
    SameStep (m.serviceWait x) (n.serviceWait x) := by
  obtain ⟨random, breakpoints, agrees⟩ := alike
  unfold serviceWait
  rcases m.input.poll with ⟨_ | key, input⟩ <;>
  · exact ⟨.differing random breakpoints agrees, rfl, rfl⟩

theorem cycle_alike (alike : m.Alike n) : SameStep m.cycle n.cycle := by
  obtain ⟨random, breakpoints, agrees⟩ := alike
  unfold cycle
  dsimp only
  split
  · exact ⟨.differing random breakpoints agrees, rfl, rfl⟩
  · split
    · exact serviceWait_alike _ (.differing random breakpoints agrees)
    · exact fetchAndExecute_alike (.differing random breakpoints agrees)

/-- A step is refused on both machines or does the same to them. -/
theorem step_alike (elapsed : Reading) (alike : m.Alike n) :
    (∃ e, m.step elapsed = .error e ∧ n.step elapsed = .error e) ∨
      ∃ t u, m.step elapsed = .ok t ∧ n.step elapsed = .ok u ∧ SameStep t u := by
  obtain ⟨random, breakpoints, agrees⟩ := alike
  unfold step
  dsimp only
  rcases m.timers.update elapsed with e | ⟨timers, ticks⟩
  · exact .inl ⟨e, rfl, rfl⟩
  · have alike : ({ m with timers } : Machine).Alike { m with random, breakpoints, timers } :=
      .differing random breakpoints agrees
    obtain ⟨machine, outcome, notices⟩ := cycle_alike alike
    exact .inr ⟨_, _, rfl, rfl, machine, outcome,
      congrArg (Timers.notices elapsed ++ ·) notices⟩

end Step

/-- What a step comes to, if an action is one. -/
def answer? (m : Machine) : HostAction → Option (Except TimerError Outcome)
  | .step elapsed => some ((m.step elapsed).map Transition.outcome)
  | _ => none

/-- What the steps of a session come to, in order. -/
def answers (m : Machine) : List HostAction → List (Except TimerError Outcome)
  | [] => []
  | a :: rest => (m.answer? a).toList ++ (m.perform a).answers rest

section Session
variable {m n : Machine}

/-- What a host does to both machines leaves them alike, and has the same answer. -/
theorem perform_alike (a : HostAction) (alike : m.Alike n) :
    (m.perform a).Alike (n.perform a) ∧ n.answer? a = m.answer? a := by
  cases a with
  | step elapsed =>
    rcases step_alike elapsed alike with ⟨e, first, second⟩ | ⟨t, u, first, second, same⟩
    · simp only [perform, answer?, first, second]
      exact ⟨alike, trivial⟩
    · simp only [perform, answer?, first, second]
      exact ⟨same.machine, by rw [Except.map, Except.map, same.outcome]⟩
  | keypad _ | setRegister _ _ | write _ _ =>
    obtain ⟨random, breakpoints, agrees⟩ := alike
    refine ⟨?_, rfl⟩
    simp only [perform]
    split <;> exact .differing random breakpoints agrees
  | load image =>
    obtain ⟨random, breakpoints, agrees⟩ := alike
    refine ⟨?_, rfl⟩
    by_cases fits : image.length ≤ Memory.programCapacity <;>
    · simp only [perform, load_eq, fits, if_true, if_false]
      exact .differing random breakpoints agrees
  | addBreakpoint address =>
    obtain ⟨random, breakpoints, agrees⟩ := alike
    obtain ⟨_, first⟩ := m.addBreakpoint_eq address
    obtain ⟨_, second⟩ := ({ m with random, breakpoints } : Machine).addBreakpoint_eq address
    simp only [perform, first, second]
    exact ⟨.differing random _ agrees, rfl⟩
  | reset | setIndex _ | setCounter _ | setDelay _ | setSound _ | switchTrace _ | clearTrace
  | removeBreakpoint _ | clearBreakpoints =>
    obtain ⟨random, breakpoints, agrees⟩ := alike
    exact ⟨.differing random _ agrees, rfl⟩

/-- A session on both machines leaves them alike, and its steps have the same answers. -/
theorem session_alike (actions : List HostAction) (alike : m.Alike n) :
    (m.session actions).Alike (n.session actions) ∧ n.answers actions = m.answers actions := by
  induction actions generalizing m n with
  | nil => exact ⟨alike, rfl⟩
  | cons a rest ih =>
    obtain ⟨after, answer⟩ := perform_alike a alike
    obtain ⟨left, answered⟩ := ih after
    rw [session_cons, session_cons, answers, answers, answer, answered]
    exact ⟨left, rfl⟩

end Session

end Machine
end Chip8
