import Chip8.Clock
import Chip8.Loop
import Chip8.Machine.Step

/-!
# Paced runs

A runner steps a machine against a clock.  A tick reads the clock, gives the machine the time since
the tick before, and then lets the host see the frame.  A run ticks until the program ends or
faults, the host cancels, a limit is reached, or the machine arrives at a breakpoint; between two
ticks it sleeps for what is left of the frame.  A breakpoint at which a run starts does not stop it,
and neither does one at which the machine waits for a key.
-/
namespace Chip8

/-- What a host does to a key when it sees a frame. -/
inductive KeyAction where
  | press (key : Fin 16)
  | release (key : Fin 16)
  deriving DecidableEq, Repr

/-- Why a tick or a run breaks off. -/
inductive RunError where
  | timer (e : TimerError)
  | clock (e : ClockError)
  deriving DecidableEq, Repr

/-- What a runner has done, in order. -/
inductive RunEvent where
  | notice (n : Notice)
  /-- a frame was shown with the program counter at this address -/
  | frame (pc : Int)
  | slept (seconds : Binary64)

/-- Why a run stopped, the outcome of its last tick, and the number of its ticks. -/
structure RunResult where
  reason : StopReason
  outcome : Outcome
  steps : Nat
  deriving DecidableEq, Repr

/-- What a host does when it is shown a frame: from the number of frames before and the machine, how
it leaves the machine and what it reports. -/
structure Viewer where
  watch : Nat → Machine → Machine × List Notice

/-- A machine and the clock it is run against.  `rate` is the number of frames a second, zero for
as many as possible.  The host is shown every frame if it wants to see them, and is asked before
every tick whether to cancel if it wants to be asked. -/
structure Runner where
  machine : Machine
  clock : Clock
  rate : Number
  last : Option Number := none
  onFrame : Option Viewer := none
  frames : Nat := 0
  cancels : Option (Nat → Bool) := none
  asked : Nat := 0
  events : Array RunEvent := #[]

/-- A rate below zero. -/
structure RateError where
  rate : Number
  deriving DecidableEq, Repr

def RateError.message (e : RateError) : String :=
  let complaint := "frame_hz must be >= 0, got "
  match e.rate with
  | .whole n => Numeral.naming complaint n
  | .real x => complaint ++ x.text

/-- A rate that is not below zero. -/
def checkRate (rate : Number) : Except RateError Number :=
  if rate.isNegative then .error ⟨rate⟩ else .ok rate

namespace KeyAction

/-- What an action does to a keypad. -/
def apply (k : Keypad) : KeyAction → Keypad
  | press key => k.press key
  | release key => k.release key

def notices (k : Keypad) : KeyAction → List Notice
  | press key => k.pressNotices key
  | release _ => []

/-- What an action does to a machine, if the machine has a keypad, and what is reported of it. -/
def perform (m : Machine) (a : KeyAction) : Machine × List Notice :=
  match m.input with
  | .keypad k => ({ m with input := .keypad (a.apply k) }, a.notices k)
  | .scripted _ _ => (m, [])

/-- What several actions do to a machine, one after the other. -/
def performAll (m : Machine) : List KeyAction → Machine × List Notice
  | [] => (m, [])
  | a :: rest =>
    let (m, first) := perform m a
    let (m, more) := performAll m rest
    (m, first ++ more)

end KeyAction

/-- The host that acts on the keypad by the number of steps. -/
def Viewer.script (actions : Nat → List KeyAction) : Viewer where
  watch _ m := KeyAction.performAll m (actions m.steps)

instance : Coe (Nat → List KeyAction) Viewer := ⟨Viewer.script⟩

namespace Runner

/-- Adds notices to what has happened. -/
def report (r : Runner) (notices : List Notice) : Runner :=
  { r with events := notices.foldl (fun es n => es.push (.notice n)) r.events }

/-- Lets the host act on the keypad, if the machine has one. -/
def act (r : Runner) (a : KeyAction) : Runner :=
  let (machine, notices) := a.perform r.machine
  { r with machine }.report notices

/-- Shows the host a frame. -/
def showFrame (r : Runner) : Runner :=
  match r.onFrame with
  | none => r
  | some viewer =>
    let (machine, notices) := viewer.watch r.frames r.machine
    { r with
      machine
      frames := r.frames + 1
      events := r.events.push (.frame r.machine.registers.pc) }.report notices

/-- The milliseconds since the last tick, or zero before the first one. -/
def elapsedAt (r : Runner) (now : Number) : Except RunError Binary64 :=
  match r.last with
  | none => .ok .zero
  | some before =>
    match now.sub before >>= Number.toBinary64 with
    | .ok seconds => .ok (seconds.mul (.ofQuotient false (1000 * Binary64.unitsPerOne) 1))
    | .error _ => .error (.clock .tooLarge)

/-- One step of the machine at a reading of the clock. -/
def tickAt (r : Runner) (now : Number) : Runner × Except RunError Outcome :=
  match r.elapsedAt now with
  | .error e => (r, .error e)
  | .ok elapsed =>
    let r := { r with last := some now }
    match r.machine.step (.number (.real elapsed)) with
    | .error e => (r, .error (.timer e))
    | .ok t => (({ r with machine := t.machine }.report t.notices).showFrame, .ok t.outcome)

/-- Reads the clock. -/
def readClock (r : Runner) : Except RunError (Number × Runner) :=
  match r.clock.read with
  | .ok (now, clock) => .ok (now, { r with clock })
  | .error e => .error (.clock e)

/-- One tick. -/
def tick (r : Runner) : Runner × Except RunError Outcome :=
  match r.readClock with
  | .error e => (r, .error e)
  | .ok (now, r) => r.tickAt now

/-- The length of a frame in seconds, if the run is paced. -/
def period? (r : Runner) : Except RunError (Option Binary64) :=
  if r.rate.isZero then .ok none
  else
    match r.rate.toBinary64 with
    | .error _ => .error (.timer .tooLarge)
    | .ok rate =>
      let period := (Binary64.finite false Binary64.unitsPerOne).div rate
      .ok (if period.isZero then none else some period)

/-- What is left of the frame at a reading of the clock, if anything is. -/
def remainingAt (r : Runner) (period : Binary64) (now : Number) :
    Except RunError (Option Binary64) :=
  match now.sub (r.last.getD now) >>= Number.toBinary64 with
  | .error _ => .error (.clock .tooLarge)
  | .ok spent =>
    let remaining := period.sub spent
    .ok (if Binary64.zero.lt remaining then some remaining else none)

/-- Sleeps. -/
def sleep (r : Runner) (seconds : Binary64) : Runner :=
  { r with clock := r.clock.sleep seconds, events := r.events.push (.slept seconds) }

/-- Sleeps for what is left of the frame. -/
def pause (r : Runner) (period : Binary64) : Runner × Except RunError Unit :=
  match r.readClock with
  | .error e => (r, .error e)
  | .ok (now, r) =>
    match r.remainingAt period now with
    | .error e => (r, .error e)
    | .ok none => (r, .ok ())
    | .ok (some remaining) => (r.sleep remaining, .ok ())

/-- Asks the host whether to cancel. -/
def ask (r : Runner) : Runner × Bool :=
  match r.cancels with
  | none => (r, false)
  | some answer => ({ r with asked := r.asked + 1 }, answer r.asked)

/-- Why a run that has made `steps` ticks must not make another one. -/
def stopBefore (r : Runner) (limit : Option Int) (steps : Nat) : Runner × Option StopReason :=
  let (r, cancelled) := r.ask
  if cancelled then (r, some .cancelled)
  else if limit.any (· ≤ (steps : Int)) then (r, some .limit)
  else if steps ≠ 0 && r.machine.atBreakpoint && r.machine.waiting.isNone then
    (r, some .breakpoint)
  else (r, none)

/-- Why a run stops after a tick. -/
def stopAfter (outcome : Outcome) : Option StopReason :=
  match outcome.kind with
  | .running => none
  | .halted => some .halt
  | .fault => some .fault

/-- A tick, and what is left of its frame if the run goes on after it. -/
def turn (r : Runner) (period : Option Binary64) : Runner × Except RunError Outcome :=
  match r.tick with
  | (r, .error e) => (r, .error e)
  | (r, .ok outcome) =>
    match stopAfter outcome, period with
    | none, some p =>
      match r.pause p with
      | (r, .error e) => (r, .error e)
      | (r, .ok ()) => (r, .ok outcome)
    | _, _ => (r, .ok outcome)

/-- Makes the next turn of a run that has made some ticks, of which the last came to an outcome, or
stops the run. -/
def runOn (period : Option Binary64) (limit : Option Int) :
    Runner × Nat × Outcome → (Runner × Nat × Outcome) ⊕ (Runner × Except RunError RunResult)
  | (r, steps, outcome) =>
    match r.stopBefore limit steps with
    | (r, some reason) => .inr (r, .ok ⟨reason, outcome, steps⟩)
    | (r, none) =>
      match r.turn period with
      | (r, .error e) => .inr (r, .error e)
      | (r, .ok outcome) =>
        match stopAfter outcome with
        | some reason => .inr (r, .ok ⟨reason, outcome, steps + 1⟩)
        | none => .inl (r, steps + 1, outcome)

/-- Makes turns until the run stops, from one that has made `steps` ticks of which the last came to
`outcome`; `none` when it never stops. -/
def runFrom (period : Option Binary64) (limit : Option Int) (r : Runner) (steps : Nat)
    (outcome : Outcome) : Option (Runner × Except RunError RunResult) :=
  Loop.result (runOn period limit) (r, steps, outcome)

/-- Ends a run. -/
def finish (r : Runner) (result : RunResult) : Runner :=
  r.report [.runStopped result.reason result.steps result.outcome]

/-- Runs the machine, for at most `limit` ticks if there is a limit.  A run that never stops leaves
no runner; the one that it began with stands in its place. -/
def run (r : Runner) (limit : Option Int) : Runner × Option (Except RunError RunResult) :=
  match r.period? with
  | .error e => (r, some (.error e))
  | .ok period =>
    match runFrom period limit r 0 .running with
    | none => (r, none)
    | some (r, .error e) => (r, some (.error e))
    | some (r, .ok result) => (r.finish result, some (.ok result))

end Runner
end Chip8
