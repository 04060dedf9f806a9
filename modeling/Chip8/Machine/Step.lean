import Chip8.Machine.Execute

/-!
# Steps

A step first gives the timers the time that has passed.  Then a machine that has stopped at a fault
reports it again, a machine that waits for a key asks for one, and any other machine carries out
the instruction at its program counter.  A step never fails because of the program: what the program
does wrong is an outcome.
-/
namespace Chip8

/-- A machine after a step, what the step came to, and what was reported, in order. -/
structure Transition where
  machine : Machine
  outcome : Outcome
  notices : List Notice := []

namespace Machine

/-- Asks for the key that register `x` waits for; the wait ends when there is one. -/
def serviceWait (m : Machine) (x : Fin 16) : Transition :=
  let (key, input) := m.input.poll
  match key with
  | none => ⟨{ m with input }, .running, []⟩
  | some k =>
    ⟨({ m with input, waiting := none }.setRegister x (UInt8.ofNat (lowKey k).val)).next,
      .running, [.keyStored k x]⟩

/-- The fault that a violation of the instruction at `pc` comes to. -/
def faultAt (pc : Int) (v : Violation) : Outcome :=
  .fault v.reason ("$" ++ Text.hex 3 pc ++ ": " ++ v.message)

/-- Stops the machine, as it was left, at a fault of the instruction at `pc`. -/
def stopAt (m : Machine) (pc : Int) (v : Violation) (notices : List Notice) : Transition :=
  let outcome := faultAt pc v
  ⟨{ m.record (.failed v) with fault := some outcome }, outcome,
    notices ++ [.faulted outcome.detail]⟩

/-- Fetches the instruction at the program counter and carries it out. -/
def fetchAndExecute (m : Machine) : Transition :=
  let pc := m.registers.pc
  match m.memory.readPair pc with
  | .error e => m.stopAt pc (.memory e) []
  | .ok (high, low) =>
    let w := Opcode.ofBytes high low
    if w.value = 0 then ⟨m, .halted, [.programEnded pc]⟩
    else
      let m := m.record (.executed pc w)
      match (execute w).run m with
      | .error v left => left.stopAt pc v [.executing pc w]
      | .ok () after => ⟨after, .running, .executing pc w :: executedNotices pc w⟩

/-- A step apart from the timers. -/
def cycle (m : Machine) : Transition :=
  match m.fault with
  | some outcome => ⟨m, outcome, []⟩
  | none =>
    let m := { m with steps := m.steps + 1 }
    match m.waiting with
    | some x => m.serviceWait x
    | none => m.fetchAndExecute

/-- One step after the time of a reading.  It fails only if the timers cannot add that time, and
then nothing has changed. -/
def step (m : Machine) (elapsed : Reading) : Except TimerError Transition :=
  match m.timers.update elapsed with
  | .error e => .error e
  | .ok (timers, _) =>
    let t := { m with timers }.cycle
    .ok { t with notices := Timers.notices elapsed ++ t.notices }

end Machine
end Chip8
