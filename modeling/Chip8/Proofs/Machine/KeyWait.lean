import Chip8.Proofs.Machine.Session
import Chip8.Proofs.Timers

/-!
# Waiting for a key

A machine and its host during a wait, in any order of steps and presses.  The queue is emptied when
the wait begins, so it holds the latest edges made since; the machine stays where it is until there
is one, and the first step after that stores the oldest one that is queued.
-/
namespace Chip8
open Keypad (latest)

/-- The low four bits of a key's number are the key. -/
theorem lowKey_val (key : Fin 16) : lowKey (key.val : Int) = key := by
  have := key.isLt
  simp only [lowKey, Fin.ext_iff]
  omega

theorem Input.poll_empty (k : Keypad) (empty : k.events = []) :
    (Input.keypad k).poll = (none, .keypad k) := by
  simp only [Input.poll, Keypad.poll, empty, Option.map_none]

theorem Input.poll_queued (k : Keypad) (key : Fin 16) (rest : List (Fin 16))
    (queued : k.events = key :: rest) : (Input.keypad k).poll.1 = some (key.val : Int) := by
  simp only [Input.poll, Keypad.poll, queued, Option.map_some]

namespace Machine

/-- Whether a machine waits for a key in register `x`, and is otherwise as `m` was. -/
structure Held (m : Machine) (x : Fin 16) (now : Machine) : Prop where
  registers : now.registers = m.registers
  memory : now.memory = m.memory
  screen : now.screen = m.screen
  fault : now.fault = none
  waiting : now.waiting = some x

/-- Whether a machine has got the key that it waited for in register `x`, and is otherwise past the
instruction at which `m` was. -/
structure Released (m : Machine) (x key : Fin 16) (now : Machine) : Prop where
  registers : now.registers = { m.registers.set x (UInt8.ofNat key.val) with
    pc := m.registers.pc + 2 }
  memory : now.memory = m.memory
  screen : now.screen = m.screen
  fault : now.fault = none
  waiting : now.waiting = none

/-- Whether the queue of a machine's keypad holds the latest of some edges. -/
def Queues (now : Machine) (edges : List (Fin 16)) : Prop :=
  ∃ k, now.input = .keypad k ∧ k.events = latest edges

theorem execute_awaitKey (m : Machine) (w : Opcode) (op : w.operation = .awaitKey) :
    (execute w).run m = .ok () (m.awaitKey w.x) := by
  unfold execute
  rw [EStateM.run_bind, EStateM.run_get, op]
  rfl

section Results
variable {m now after : Machine} {timers : Timers} {o : Outcome} {x : Fin 16}

/-- The instruction begins the wait. -/
theorem result_awaitKey (w : Opcode) (fault : m.fault = none) (waiting : m.waiting = none)
    (fetched : m.fetched? = some w) (op : w.operation = .awaitKey)
    (result : StepResult m timers after o) :
    o = .running ∧
      after = ((m.begun timers).record (.executed m.registers.pc w)).awaitKey w.x := by
  have due := (due_iff m w).mpr ⟨fault, waiting, fetched⟩
  obtain ⟨running, run⟩ := result_carries (carries_of_operation due (by rw [op]; decide)) result
  rw [execute_awaitKey _ w op] at run
  cases run
  exact ⟨running, rfl⟩

/-- A machine that begins to wait is where it was, with an empty queue. -/
theorem result_begins (k : Keypad) (input : m.input = .keypad k) (fault : m.fault = none)
    (waiting : m.waiting = none) (atWait : m.AtWait x) (result : StepResult m timers after o) :
    o = .running ∧ Held m x after ∧ after.Queues [] := by
  obtain ⟨w, fetched, op, rfl⟩ := (atWait_iff m x).mp atWait
  obtain ⟨running, rfl⟩ := result_awaitKey w fault waiting fetched op result
  refine ⟨running, ⟨?_, ?_, ?_, ?_, rfl⟩, k.clearEvents, ?_, rfl⟩
  all_goals rw [record_eq]
  · rfl
  · rfl
  · rfl
  · exact fault
  · simp only [awaitKey, begun_input, input, Input.clearEvents]

/-- A step without an edge leaves the machine waiting. -/
theorem result_idle (held : Held m x now) (queued : now.Queues [])
    (result : StepResult now timers after o) :
    o = .running ∧ Held m x after ∧ after.Queues [] := by
  obtain ⟨registers, memory, screen, fault, waiting⟩ := held
  obtain ⟨k, input, empty⟩ := queued
  have poll : now.input.poll = (none, .keypad k) := by
    rw [input]
    exact Input.poll_empty k empty
  obtain ⟨running, ⟨_, rfl⟩ | ⟨_, pressed, _⟩⟩ := result_waiting x fault waiting result
  · exact ⟨running, ⟨registers, memory, screen, fault, waiting⟩, k, congrArg Prod.snd poll, empty⟩
  · rw [poll] at pressed
    cases pressed

/-- A step with an edge in the queue stores the oldest one and ends the wait. -/
theorem result_released (edges : List (Fin 16)) (key : Fin 16) (atWait : m.AtWait x)
    (held : Held m x now) (queued : now.Queues edges) (oldest : (latest edges).head? = some key)
    (result : StepResult now timers after o) : o = .running ∧ Released m x key after := by
  obtain ⟨registers, memory, screen, fault, waiting⟩ := held
  obtain ⟨k, input, events⟩ := queued
  obtain ⟨rest, first⟩ := List.head?_eq_some_iff.mp oldest
  have poll : now.input.poll.1 = some (key.val : Int) := by
    rw [input]
    exact Input.poll_queued k key rest (events.trans first)
  obtain ⟨running, ⟨quiet, _⟩ | ⟨_, pressed, rfl⟩⟩ := result_waiting x fault waiting result
  · rw [poll] at quiet
    cases quiet
  · rw [poll] at pressed
    cases pressed
    refine ⟨running, ?_, memory, screen, fault, rfl⟩
    -- both bytes of the instruction are in memory, so the address after it does not wrap
    have within := atWait.within
    have forward : (m.registers.pc + 2 * 1) % 65536 = m.registers.pc + 2 := by omega
    simp only [resumed, next, setRegister, begun_registers, registers, Registers.advance,
      Registers.set, lowKey_val, forward]

end Results

/-- The actions of a wait keep the machine waiting and add their edges to the queue, as long as no
step is made after an edge. -/
theorem perform_held (m now : Machine) (x : Fin 16) (edges : List (Fin 16)) (a : HostAction)
    (waits : a.Waits) (held : Held m x now) (queued : now.Queues edges)
    (ordered : ∀ r t, a = .step r → now.step r = .ok t → edges = []) :
    Held m x (now.perform a) ∧ (now.perform a).Queues (edges ++ (now.edge? a).toList) := by
  cases a with
  | step r =>
    simp only [perform, edge?, Option.toList_none, List.append_nil]
    cases stepped : now.step r with
    | error e => exact ⟨held, queued⟩
    | ok t =>
      obtain rfl := ordered r t rfl stepped
      obtain ⟨timers, _, _, result⟩ := now.step_result r t stepped
      exact (result_idle held queued result).2
  | keypad a =>
    obtain ⟨k, input, events⟩ := queued
    rw [perform_keypad now k a input, edge?_keypad now k a input]
    exact ⟨⟨held.registers, held.memory, held.screen, held.fault, held.waiting⟩,
      k.perform a, rfl, Keypad.perform_latest k a waits edges events⟩
  | _ => exact waits.elim

/-- So does a session of them. -/
theorem session_held (m now : Machine) (x : Fin 16) (edges : List (Fin 16))
    (actions : List HostAction) (waits : ∀ a ∈ actions, a.Waits) (held : Held m x now)
    (queued : now.Queues edges)
    (ordered : ∀ before r rest t, actions = before ++ .step r :: rest →
      (now.session before).step r = .ok t → edges ++ now.edges before = []) :
    Held m x (now.session actions) ∧ (now.session actions).Queues (edges ++ now.edges actions) := by
  -- the edges so far are in the queue, so the induction is over every number of them
  induction actions generalizing now edges with
  | nil =>
    rw [Machine.edges, List.append_nil]
    exact ⟨held, queued⟩
  | cons a rest ih =>
    have first : ∀ r t, a = .step r → now.step r = .ok t → edges = [] := by
      rintro r t rfl stepped
      have none := ordered [] r rest t rfl stepped
      rwa [Machine.edges, List.append_nil] at none
    obtain ⟨still, joined⟩ := perform_held m now x edges a (waits a List.mem_cons_self) held queued
      first
    rw [session_cons, Machine.edges, ← List.append_assoc]
    refine ih (now.perform a) (edges ++ (now.edge? a).toList)
      (fun b member => waits b (List.mem_cons_of_mem a member)) still joined ?_
    intro before r after t split stepped
    rw [List.append_assoc]
    exact ordered (a :: before) r after t (congrArg (a :: ·) split) stepped

/-- Whether every step that is made in a session is made before its first edge. -/
def StepsFirst (m : Machine) (actions : List HostAction) : Prop :=
  ∀ before r rest t, actions = before ++ .step r :: rest →
    (m.session before).step r = .ok t → m.edges before = []

/-- There is no edge that a step could come after. -/
theorem stepsFirst_of_edges (m : Machine) (actions : List HostAction)
    (empty : m.edges actions = []) : m.StepsFirst actions := by
  rintro before r rest t rfl _
  rw [edges_append] at empty
  exact (List.append_eq_nil_iff.mp empty).1

/-- Waiting for a key, in any order of steps and presses.  Until there is an edge, every step leaves
the machine where it is; and the first step after an edge stores the oldest one that is queued. -/
theorem keyWait_protocol (m : Machine) (k : Keypad) (x : Fin 16) (elapsed next : Reading)
    (t : Transition) (actions : List HostAction) (timers : Timers) (ticks : Nat)
    (input : m.input = .keypad k) (fault : m.fault = none) (waiting : m.waiting = none)
    (atWait : m.AtWait x) (stepped : m.step elapsed = .ok t) (waits : ∀ a ∈ actions, a.Waits)
    (accepted : (t.machine.session actions).timers.update next = .ok (timers, ticks)) :
    t.outcome = .running ∧ Held m x t.machine ∧
    ∃ u, (t.machine.session actions).step next = .ok u ∧
      (t.machine.edges actions = [] → u.outcome = .running ∧ Held m x u.machine) ∧
      (t.machine.edges actions ≠ [] → t.machine.StepsFirst actions →
        u.outcome = .running ∧ ∃ queue key, (t.machine.session actions).input = .keypad queue ∧
          queue.events = latest (t.machine.edges actions) ∧ queue.events.head? = some key ∧
          ((t.machine.edges actions).length ≤ 16 →
            (t.machine.edges actions).head? = some key) ∧
          Released m x key u.machine) := by
  obtain ⟨_, _, _, begun⟩ := m.step_result elapsed t stepped
  obtain ⟨running, held, queued⟩ := result_begins k input fault waiting atWait begun
  obtain ⟨u, again, result⟩ := step_success _ next timers ticks accepted
  refine ⟨running, held, u, again, ?_, ?_⟩
  · intro empty
    have before := stepsFirst_of_edges _ _ empty
    obtain ⟨still, left⟩ := session_held m _ x [] actions waits held queued before
    rw [empty] at left
    obtain ⟨outcome, after, _⟩ := result_idle still left result
    exact ⟨outcome, after⟩
  · intro made before
    obtain ⟨still, left⟩ := session_held m _ x [] actions waits held queued before
    rw [List.nil_append] at left
    obtain ⟨queue, keypad, events⟩ := left
    have pressed : latest (t.machine.edges actions) ≠ [] :=
      made ∘ (Keypad.latest_eq_nil_iff _).mp
    obtain ⟨key, oldest⟩ : ∃ key, (latest (t.machine.edges actions)).head? = some key :=
      ⟨_, List.head?_eq_some_head pressed⟩
    obtain ⟨outcome, released⟩ :=
      result_released _ _ atWait still ⟨queue, keypad, events⟩ oldest result
    refine ⟨outcome, queue, key, keypad, events, events ▸ oldest, ?_, released⟩
    intro few
    rwa [Keypad.latest_of_length_le _ few] at oldest

/-- A machine at an instruction that waits for a key in `V3`, with a key down since before. -/
def atKeyWait : Machine :=
  (fresh (.keypad {}) (.repeating [])).session [.load [0xF3, 0x0A], .keypad (.press 7)]

theorem atKeyWait_atWait : atKeyWait.AtWait 3 := by
  have loaded : Memory.initial.load [0xF3, 0x0A] = .ok atKeyWait.memory := rfl
  exact ⟨Memory.byte?_load _ _ _ loaded 0 (by decide), Memory.byte?_load _ _ _ loaded 1 (by decide)⟩

/-- The key that is down is not stored, the one that is pressed then is. -/
theorem keyWait_protocol_pressed :
    ∃ t u, atKeyWait.step Timers.noTime = .ok t ∧
      (t.machine.session [.keypad (.press 7), .keypad (.press 5)]).step Timers.noTime = .ok u ∧
      Released atKeyWait 3 5 u.machine := by
  have accepted : atKeyWait.timers.update Timers.noTime = .ok ({}, 0) := Timers.update_noTime {} rfl
  obtain ⟨⟨after, o, notices⟩, stepped, result⟩ := step_success _ _ _ _ accepted
  obtain ⟨w, fetched, op, named⟩ := (atWait_iff _ _).mp atKeyWait_atWait
  obtain ⟨_, parked⟩ := result_awaitKey w rfl rfl fetched op result
  rw [named] at parked
  subst parked
  obtain ⟨_, _, u, again, _, released⟩ := keyWait_protocol atKeyWait _ 3 Timers.noTime Timers.noTime
    _ [.keypad (.press 7), .keypad (.press 5)] {} 0 rfl rfl rfl atKeyWait_atWait stepped
    (by simp [HostAction.Waits, KeypadAction.Handles]) (Timers.update_noTime {} rfl)
  have steps : ∀ now : Machine, now.StepsFirst [.keypad (.press 7), .keypad (.press 5)] := by
    intro now before r rest t split
    have member : HostAction.step r ∈ [.keypad (.press 7), .keypad (.press 5)] := by
      rw [split]
      exact List.mem_append_right before List.mem_cons_self
    simp at member
  have few : [(5 : Fin 16)].length ≤ 16 := by decide
  obtain ⟨_, _, key, _, _, _, first, done⟩ := released nofun (steps _)
  cases first few
  exact ⟨_, u, stepped, again, done⟩

end Machine
end Chip8
