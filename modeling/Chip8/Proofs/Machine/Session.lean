import Chip8.Proofs.CallStack
import Chip8.Proofs.Keypad.Queue
import Chip8.Proofs.Machine.Step

/-!
# Sessions

A session is what a host does to a machine, one action after the other: steps, presses of keys, and
everything else that it may change.  A refused action changes nothing.  What every action keeps, a
session keeps.
-/
namespace Chip8

/-- What a host does to a machine. -/
inductive HostAction where
  | step (elapsed : Reading)
  | keypad (a : KeypadAction)
  | reset
  | load (image : List UInt8)
  | setRegister (i value : Int)
  | setIndex (value : Int)
  | setCounter (value : Int)
  | setDelay (value : Int)
  | setSound (value : Int)
  | write (address : Int) (data : List UInt8)
  | switchTrace (on : Bool)
  | clearTrace
  | addBreakpoint (address : Int)
  | removeBreakpoint (address : Int)
  | clearBreakpoints

/-- Whether an action belongs to playing a loaded program: steps, the keypad and resets. -/
def HostAction.Plays : HostAction → Prop
  | .step _ | .keypad _ | .reset => True
  | _ => False

/-- Whether an action is a step or one on the keypad. -/
def HostAction.Continues : HostAction → Prop
  | .step _ | .keypad _ => True
  | _ => False

/-- Whether an action is a step, presses keys or lets them go. -/
def HostAction.Waits : HostAction → Prop
  | .step _ => True
  | .keypad a => a.Handles
  | _ => False

namespace Machine

/-- A machine as it is switched on. -/
def fresh (input : Input) (random : RandomSource) : Machine := { input, random }

/-- The machine after an action; a refused action changes nothing. -/
def perform (m : Machine) : HostAction → Machine
  | .step elapsed =>
    match m.step elapsed with
    | .ok t => t.machine
    | .error _ => m
  | .keypad a =>
    match m.input with
    | .keypad k => { m with input := .keypad (k.perform a) }
    | .scripted _ _ => m
  | .reset => m.reset
  | .load image =>
    match m.load image with
    | .ok loaded => loaded
    | .error _ => m
  | .setRegister i value =>
    match m.registers.set? i value with
    | some registers => { m with registers }
    | none => m
  | .setIndex value => m.pointTo value
  | .setCounter value => m.jump value
  | .setDelay value => { m with timers := m.timers.setDelay value }
  | .setSound value => { m with timers := m.timers.setSound value }
  | .write address data =>
    match m.memory.writeBlock address data with
    | .ok memory => { m with memory }
    | .error _ => m
  | .switchTrace on => { m with tracing := on }
  | .clearTrace => { m with trace := #[] }
  | .addBreakpoint address => m.addBreakpoint address
  | .removeBreakpoint address => m.removeBreakpoint address
  | .clearBreakpoints => m.clearBreakpoints

/-- The machine after a session. -/
def session (m : Machine) (actions : List HostAction) : Machine := actions.foldl perform m

/-- Whether a host can bring a new machine into a state. -/
def Reachable (m : Machine) : Prop :=
  ∃ input random actions, m = (fresh input random).session actions

/-- The edge that an action makes, if the machine has a keypad and the action makes one. -/
def edge? (m : Machine) : HostAction → Option (Fin 16)
  | .keypad a => m.input.keypad?.bind (·.edge? a)
  | _ => none

/-- The edges that a session makes, in order. -/
def edges (m : Machine) : List HostAction → List (Fin 16)
  | [] => []
  | a :: rest => (m.edge? a).toList ++ (m.perform a).edges rest

theorem session_cons (m : Machine) (a : HostAction) (rest : List HostAction) :
    m.session (a :: rest) = (m.perform a).session rest := rfl

theorem session_append (m : Machine) (first second : List HostAction) :
    m.session (first ++ second) = (m.session first).session second :=
  List.foldl_append

theorem edges_append (m : Machine) (first second : List HostAction) :
    m.edges (first ++ second) = m.edges first ++ (m.session first).edges second := by
  induction first generalizing m with
  | nil => rfl
  | cons a rest ih =>
    rw [List.cons_append, edges, edges, session_cons, ih, List.append_assoc]

/-- What every action of a session keeps is kept by the session. -/
theorem session_kept (P : Machine → Prop) (actions : List HostAction)
    (kept : ∀ m, ∀ a ∈ actions, P m → P (m.perform a)) (m : Machine) (start : P m) :
    P (m.session actions) := by
  induction actions generalizing m with
  | nil => exact start
  | cons a rest ih =>
    rw [session_cons]
    refine ih (fun m b member => kept m b (List.mem_cons_of_mem a member)) (m.perform a) ?_
    exact kept m a List.mem_cons_self start

/-- A step in a session is refused by the timers or has one of the seven results. -/
theorem perform_step (m : Machine) (elapsed : Reading) :
    m.perform (.step elapsed) = m ∨
    ∃ timers o, StepResult m timers (m.perform (.step elapsed)) o := by
  cases stepped : m.step elapsed with
  | error e =>
    left
    simp only [perform, stepped]
  | ok t =>
    right
    obtain ⟨timers, _, _, result⟩ := m.step_result elapsed t stepped
    refine ⟨timers, t.outcome, ?_⟩
    simp only [perform, stepped]
    exact result

/-- What a host does to the keypad changes the keypad alone. -/
theorem perform_keypad (m : Machine) (k : Keypad) (a : KeypadAction) (input : m.input = .keypad k) :
    m.perform (.keypad a) = { m with input := .keypad (k.perform a) } := by
  simp only [perform, input]

theorem edge?_keypad (m : Machine) (k : Keypad) (a : KeypadAction) (input : m.input = .keypad k) :
    m.edge? (.keypad a) = k.edge? a := by
  simp only [edge?, input, Input.keypad?, Option.bind_some]

theorem addBreakpoint_eq (m : Machine) (address : Int) :
    ∃ breakpoints, m.addBreakpoint address = { m with breakpoints } := by
  unfold addBreakpoint
  dsimp only
  split
  · exact ⟨m.breakpoints, rfl⟩
  · exact ⟨_, rfl⟩

/-- What a host leaves alone when it sets a part of a machine. -/
structure Untouched (m after : Machine) : Prop where
  stack : after.registers.stack = m.registers.stack
  screen : after.screen = m.screen
  input : after.input = m.input
  random : after.random = m.random
  waiting : after.waiting = m.waiting
  steps : after.steps = m.steps
  fault : after.fault = m.fault

/-- The registers, the memory, the timers and the records of a machine are set without a change to
anything else. -/
theorem perform_untouched (m : Machine) (a : HostAction) (sets : ¬ a.Plays) :
    Untouched m (m.perform a) := by
  cases a with
  | step _ | keypad _ | reset => exact absurd trivial sets
  | load image =>
    simp only [perform, load]
    cases m.memory.load image <;> exact ⟨rfl, rfl, rfl, rfl, rfl, rfl, rfl⟩
  | setRegister i value =>
    simp only [perform, Registers.set?]
    cases Sequence.position? 16 i <;> exact ⟨rfl, rfl, rfl, rfl, rfl, rfl, rfl⟩
  | write address data =>
    simp only [perform]
    split <;> exact ⟨rfl, rfl, rfl, rfl, rfl, rfl, rfl⟩
  | addBreakpoint address =>
    obtain ⟨breakpoints, added⟩ := m.addBreakpoint_eq address
    rw [perform, added]
    exact ⟨rfl, rfl, rfl, rfl, rfl, rfl, rfl⟩
  | _ => exact ⟨rfl, rfl, rfl, rfl, rfl, rfl, rfl⟩

/-! The call stack of every state that a host can reach is one of the machine's: no host action
but a step or a reset changes it. -/

theorem flow_sized (m after : Machine) (w : Opcode) (sized : m.registers.stack.Sized)
    (flow : Flow m w after) : after.registers.stack.Sized := by
  cases flow with
  | forward _ _ _ stack _ _ _ =>
    rw [stack]
    exact sized
  | jumped _ _ moved | parked _ moved =>
    subst moved
    exact sized
  | called stack pushed moved =>
    subst moved
    exact sized.push _ pushed
  | returned address stack popped moved =>
    subst moved
    exact sized.pop address popped

theorem result_sized (m after : Machine) (timers : Timers) (o : Outcome)
    (sized : m.registers.stack.Sized) (result : StepResult m timers after o) :
    after.registers.stack.Sized := by
  cases result with
  | stopped | idle | resumed | ended => exact sized
  | unfetched =>
    unfold failed
    rw [record_registers]
    exact sized
  | refused =>
    unfold failed
    rw [record_registers, record_registers]
    exact sized
  | carried w after _ _ _ _ _ _ flow =>
    refine flow_sized _ after w ?_ flow
    rw [record_registers]
    exact sized

theorem perform_sized (m : Machine) (a : HostAction) (sized : m.registers.stack.Sized) :
    (m.perform a).registers.stack.Sized := by
  cases a with
  | step elapsed =>
    rcases m.perform_step elapsed with same | ⟨timers, o, result⟩
    · rw [same]
      exact sized
    · exact result_sized m _ timers o sized result
  | reset => exact ⟨rfl, Nat.zero_le _⟩
  | keypad a =>
    simp only [perform]
    split <;> exact sized
  | _ =>
    rw [(m.perform_untouched _ id).stack]
    exact sized

theorem Reachable.sized {m : Machine} (reachable : m.Reachable) : m.registers.stack.Sized := by
  obtain ⟨input, random, actions, rfl⟩ := reachable
  refine session_kept (·.registers.stack.Sized) actions (fun m a _ => perform_sized m a) _ ?_
  exact ⟨rfl, Nat.zero_le _⟩

/-! A program whose only instruction jumps to itself. -/

/-- Whether a machine is about to carry out a jump to itself. -/
structure Loops (m : Machine) : Prop where
  fault : m.fault = none
  waiting : m.waiting = none
  fetched : m.fetched? = some (.ofBytes 0x12 0x00)
  counter : m.registers.pc = 0x200

/-- The jump is carried out, and changes only what a step records and the time. -/
theorem Loops.result {m after : Machine} {timers : Timers} {o : Outcome} (loops : m.Loops)
    (result : StepResult m timers after o) :
    o = .running ∧ after.Loops ∧ after.timers = timers ∧ after.input = m.input ∧
      after.breakpoints = m.breakpoints ∧ after.steps = m.steps + 1 := by
  have op : (Opcode.ofBytes 0x12 0x00).operation = .jump := by decide
  have due := (due_iff m _).mpr ⟨loops.fault, loops.waiting, loops.fetched⟩
  obtain ⟨running, run⟩ := result_carries (carries_of_operation due (by rw [op]; decide)) result
  unfold execute at run
  rw [EStateM.run_bind, EStateM.run_get, op, record_eq] at run
  injection run with _ jumped
  subst jumped
  have fetched := loops.fetched
  rw [fetched?, loops.counter] at fetched
  exact ⟨running, ⟨loops.fault, loops.waiting, fetched, rfl⟩, rfl, rfl, rfl, rfl⟩

theorem Loops.perform {m : Machine} (loops : m.Loops) (a : HostAction) (continues : a.Continues) :
    (m.perform a).Loops := by
  cases a with
  | step elapsed =>
    rcases m.perform_step elapsed with same | ⟨timers, o, result⟩
    · rw [same]
      exact loops
    · exact (loops.result result).2.1
  | keypad a =>
    simp only [Machine.perform]
    split
    · exact ⟨loops.fault, loops.waiting, loops.fetched, loops.counter⟩
    · exact loops
  | _ => exact continues.elim

/-- Steps and the keypad do not end the loop. -/
theorem Loops.session {m : Machine} (loops : m.Loops) (actions : List HostAction)
    (continues : ∀ a ∈ actions, a.Continues) : (m.session actions).Loops :=
  session_kept Loops actions (fun _ a member loops => loops.perform a (continues a member)) m loops

end Machine
end Chip8
