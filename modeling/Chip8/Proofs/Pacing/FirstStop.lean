import Chip8.Proofs.Machine.Records
import Chip8.Proofs.Pacing.Course
import Chip8.Proofs.Timers
import Mathlib.Data.Nat.Find

/-!
# Where a run stops

A run stops at the first number of ticks at which there is a reason to, for the first of the reasons
that hold there.  The machine counts the ticks of a run, unless it has stopped at a fault before.
-/
namespace Chip8

/-- Whether a host that is shown a frame acts on the input alone. -/
def Viewer.InputOnly (viewer : Viewer) : Prop :=
  ∀ i m, ∃ input, (viewer.watch i m).1 = { m with input }

theorem KeyAction.performAll_inputOnly (actions : List KeyAction) (m : Machine) :
    ∃ input, (performAll m actions).1 = { m with input } := by
  induction actions generalizing m with
  | nil => exact ⟨m.input, rfl⟩
  | cons a rest ih =>
    obtain ⟨input, first⟩ : ∃ input, (perform m a).1 = { m with input } := by
      unfold perform
      split
      · exact ⟨_, rfl⟩
      · exact ⟨m.input, rfl⟩
    obtain ⟨input', more⟩ := ih (perform m a).1
    refine ⟨input', ?_⟩
    rw [performAll]
    exact more.trans (by rw [first])

/-- A host that presses keys and lets them go acts on the input alone. -/
theorem Viewer.script_inputOnly (actions : Nat → List KeyAction) : (script actions).InputOnly :=
  fun _ m => KeyAction.performAll_inputOnly (actions m.steps) m

namespace Runner

theorem scripted_inputOnly {r : Runner} {actions : Nat → List KeyAction}
    (host : r.onFrame = some (.script actions)) :
    ∀ viewer, r.onFrame = some viewer → viewer.InputOnly := by
  intro viewer given
  rw [host] at given
  cases given
  exact Viewer.script_inputOnly actions

/-- After `n` turns, and not before, there is a reason to stop; it is the first that holds there. -/
structure FirstStop (r : Runner) (period : Option Binary64) (limit : Option Int) (n : Nat)
    (s : Runner) (o : Outcome) (reason : StopReason) : Prop where
  reached : r.course period n = (s, .ok o)
  stopped : r.reason? limit n s.machine o = some reason
  least : ∀ k < n, r.GoesOn period limit k

/-- The turn after `n` others breaks off, and nothing stops the run before it. -/
structure Broken (r : Runner) (period : Option Binary64) (limit : Option Int) (n : Nat)
    (s : Runner) (e : RunError) : Prop where
  broken : r.course period n = (s, .error e)
  least : ∀ k < n, r.GoesOn period limit k

section Run
variable {r s : Runner} {period : Option Binary64} {limit : Option Int} {n : Nat} {o : Outcome}
  {reason : StopReason} {e : RunError}

theorem FirstStop.runFrom (first : r.FirstStop period limit n s o reason) :
    runFrom period limit r 0 .running = some (s.left o, .ok ⟨reason, o, n⟩) := by
  rw [runFrom_follows r period limit n first.least]
  exact continued_stops r period limit n s o reason first.reached first.stopped

theorem Broken.runFrom (first : r.Broken period limit n s e) :
    runFrom period limit r 0 .running = some (s, .error e) := by
  rw [runFrom_follows r period limit n first.least, first.broken]
  rfl

/-- A course has a first reason to stop, or a turn that breaks off before there is one, or goes on
for ever. -/
theorem course_ends (r : Runner) (period : Option Binary64) (limit : Option Int) :
    (∃ n s o reason, r.FirstStop period limit n s o reason) ∨
    (∃ n s e, r.Broken period limit n s e) ∨ ∀ k, r.GoesOn period limit k := by
  by_cases endless : ∀ k, r.GoesOn period limit k
  · exact .inr (.inr endless)
  · classical
    have ends := not_forall.mp endless
    let n := Nat.find ends
    have least : ∀ k < n, r.GoesOn period limit k := fun k below =>
      not_not.mp (Nat.find_min ends below)
    have stops : ¬ r.GoesOn period limit n := Nat.find_spec ends
    rcases reached : r.course period n with ⟨s, e | o⟩
    · exact .inr (.inl ⟨n, s, e, reached, least⟩)
    · cases stopped : r.reason? limit n s.machine o with
      | none => exact absurd ⟨s, o, reached, stopped⟩ stops
      | some reason => exact .inl ⟨n, s, o, reason, reached, stopped, least⟩

/-- A course that goes on has not come to the limit. -/
theorem GoesOn.below {k : Int} (going : r.GoesOn period (some k) n) : (n : Int) < k := by
  obtain ⟨s, o, _, none⟩ := going
  have beyond : ¬ r.holds (some k) n s.machine o .limit := by
    exact List.find?_eq_none.mp none .limit (by decide)
  simpa [holds] using beyond

end Run

/-! What a run does until it stops. -/

section Count
variable {r s : Runner} {period : Option Binary64} {limit : Option Int} {n : Nat} {o : Outcome}

/-- A host that acts on the input alone leaves the machine as it was apart from that. -/
theorem viewed_inputOnly {host : Option Viewer}
    (inputOnly : ∀ viewer, host = some viewer → viewer.InputOnly) (i : Nat) (m : Machine) :
    ∃ input, viewed host i m = { m with input } := by
  cases host with
  | none => exact ⟨m.input, rfl⟩
  | some viewer => exact inputOnly viewer rfl i m

/-- One more turn is one more step of the machine, after which the host acts on the input. -/
theorem course_succ (inputOnly : ∀ viewer, r.onFrame = some viewer → viewer.InputOnly)
    (going : r.GoesOn period limit n) (reached : r.course period (n + 1) = (s, .ok o)) :
    ∃ t p, r.course period n = (t, .ok p) ∧ stopAfter p = none ∧
      ∃ timers after, Machine.StepResult t.machine timers after o ∧
        ∃ input, s.machine = { after with input } := by
  obtain ⟨t, p, before, running, _⟩ := going.unstopped
  have so := course_followed r t period n p before
  rw [course, before] at reached
  obtain ⟨elapsed, u, stepped, rfl, machine⟩ := (turn_turned t.ask.1 s period o reached).machine
  rw [ask_eq] at stepped machine
  obtain ⟨timers, _, _, result⟩ := Machine.step_result _ elapsed u stepped
  rw [so.onFrame] at machine
  exact ⟨t, p, before, running, timers, u.machine, result,
    machine ▸ viewed_inputOnly inputOnly _ u.machine⟩

theorem stopAfter_fault (fault : o.isFault) : stopAfter o = some .fault := by
  have kind : o.kind = .fault := by simpa [Outcome.isFault] using fault
  rw [stopAfter, kind]

/-- The machine counts the ticks of a run, and stops at the fault of the last one if that comes to
a fault. -/
theorem course_counted (inputOnly : ∀ viewer, r.onFrame = some viewer → viewer.InputOnly)
    (fault : r.machine.fault = none) (going : ∀ k < n, r.GoesOn period limit k)
    (reached : r.course period n = (s, .ok o)) :
    s.machine.steps = r.machine.steps + n ∧ (s.machine.fault = none ∨ o.isFault) := by
  induction n generalizing s o with
  | zero =>
    cases reached
    exact ⟨rfl, .inl fault⟩
  | succ n ih =>
    obtain ⟨t, p, before, running, timers, after, result, input, machine⟩ :=
      course_succ inputOnly (going n (Nat.lt_succ_self n)) reached
    obtain ⟨steps, free | isFault⟩ := ih (fun k below => going k (Nat.lt_succ_of_lt below)) before
    · obtain ⟨counted, stopped⟩ := result.counted free
      rw [machine]
      exact ⟨counted.trans (by rw [steps, Nat.add_assoc]), stopped.imp_right And.right⟩
    -- a fault before the last tick would have ended the run
    · rw [stopAfter_fault isFault] at running
      cases running

/-- A run of a machine that has stopped at a fault makes at most one tick, and the machine does not
count it. -/
theorem course_latched (inputOnly : ∀ viewer, r.onFrame = some viewer → viewer.InputOnly)
    (proper : r.machine.ProperFault) (fault : r.machine.fault ≠ none)
    (going : ∀ k < n, r.GoesOn period limit k) (reached : r.course period n = (s, .ok o)) :
    n ≤ 1 ∧ s.machine.steps = r.machine.steps := by
  obtain ⟨latched, found⟩ := Option.ne_none_iff_exists'.mp fault
  cases n with
  | zero =>
    cases reached
    exact ⟨Nat.zero_le 1, rfl⟩
  | succ n =>
    have first : ∀ t p, r.course period 1 = (t, .ok p) →
        p = latched ∧ t.machine.steps = r.machine.steps := by
      intro t p one
      obtain ⟨_, _, start, _, timers, after, result, input, machine⟩ :=
        course_succ inputOnly (going 0 (Nat.succ_pos n)) one
      cases start
      obtain ⟨again, steps, _⟩ := result.latched latched found
      rw [machine]
      exact ⟨again, steps⟩
    cases n with
    | zero => exact ⟨Nat.le_refl 1, (first s o reached).2⟩
    | succ n =>
      -- the fault that the first tick reports again has stopped the run
      obtain ⟨t, p, one, running, _⟩ := (going 1 (by omega)).unstopped
      rw [(first t p one).1, stopAfter_fault (proper latched found)] at running
      cases running

end Count

/-! Whole runs. -/

/-- A run breaks off before its first turn, or in one of its turns. -/
def Breaks (r : Runner) (limit : Option Int) (e : RunError) : Prop :=
  r.period? = .error e ∨
    ∃ period n s, r.period? = .ok period ∧ r.Broken period limit n s e

/-- What a run that has stopped with a result has made of its runner. -/
structure Stopped (r s : Runner) (x : RunResult) : Prop where
  alternates : r.Alternates x.steps s.machine x.outcome
  frames : s.frames = r.frames + shown r.onFrame x.steps
  counted : r.machine.fault = none → s.machine.steps = r.machine.steps + x.steps
  latched : r.machine.fault ≠ none → x.steps ≤ 1 ∧ s.machine.steps = r.machine.steps

section Whole
variable {r s : Runner} {period : Option Binary64} {limit : Option Int} {n : Nat} {o : Outcome}
  {reason : StopReason} {e : RunError}

theorem FirstStop.run (paced : r.period? = .ok period)
    (first : r.FirstStop period limit n s o reason) :
    r.run limit = ((s.left o).finish ⟨reason, o, n⟩, some (.ok ⟨reason, o, n⟩)) := by
  unfold Runner.run
  rw [paced]
  simp only [first.runFrom]

theorem Breaks.run (breaks : r.Breaks limit e) : (r.run limit).2 = some (.error e) := by
  unfold Runner.run
  rcases breaks with unpaced | ⟨period, n, s, paced, broken⟩
  · rw [unpaced]
  · rw [paced]
    simp only [broken.runFrom]

theorem run_endless (paced : r.period? = .ok period) (going : ∀ k, r.GoesOn period limit k) :
    (r.run limit).2 = none := by
  unfold Runner.run
  rw [paced]
  simp only [runFrom_endless r period limit going]

/-- A run has a first reason to stop, or breaks off, or goes on for ever. -/
theorem run_ends (r : Runner) (limit : Option Int) :
    (∃ period n s o reason, r.period? = .ok period ∧ r.FirstStop period limit n s o reason) ∨
    (∃ e, r.Breaks limit e) ∨
    ∃ period, r.period? = .ok period ∧ ∀ k, r.GoesOn period limit k := by
  cases paced : r.period? with
  | error e => exact .inr (.inl ⟨e, .inl paced⟩)
  | ok period =>
    rcases course_ends r period limit with
      ⟨n, s, o, reason, first⟩ | ⟨n, s, e, broken⟩ | endless
    · exact .inl ⟨period, n, s, o, reason, rfl, first⟩
    · exact .inr (.inl ⟨e, .inr ⟨period, n, s, paced, broken⟩⟩)
    · exact .inr (.inr ⟨period, rfl, endless⟩)

/-- A run comes to a result exactly where there is a first reason to stop. -/
theorem run_result_iff (r : Runner) (limit : Option Int) (x : RunResult) :
    (r.run limit).2 = some (.ok x) ↔
      ∃ period s, r.period? = .ok period ∧
        r.FirstStop period limit x.steps s x.outcome x.reason := by
  constructor
  · intro ended
    rcases run_ends r limit with ⟨period, n, s, o, reason, paced, first⟩ | ⟨e, breaks⟩ |
      ⟨period, paced, going⟩
    · rw [first.run paced] at ended
      cases ended
      exact ⟨period, s, paced, first⟩
    · rw [breaks.run] at ended
      cases ended
    · rw [run_endless paced going] at ended
      cases ended
  · rintro ⟨period, s, paced, first⟩
    rw [first.run paced]

/-- A run with a limit comes to a result or breaks off. -/
theorem run_limited (r : Runner) (k : Int) :
    (∃ x, (r.run (some k)).2 = some (.ok x)) ∨ ∃ e, r.Breaks (some k) e := by
  rcases run_ends r (some k) with ⟨period, n, s, o, reason, paced, first⟩ | breaks |
    ⟨period, _, going⟩
  · exact .inl ⟨⟨reason, o, n⟩, by rw [first.run paced]⟩
  · exact .inr breaks
  · have below := (going k.toNat).below
    omega

theorem finish_machine (s : Runner) (x : RunResult) : (s.finish x).machine = s.machine := by
  rw [finish, report_eq]

theorem finish_frames (s : Runner) (x : RunResult) : (s.finish x).frames = s.frames := by
  rw [finish, report_eq]

/-- A run that stops has made the steps and shown the frames that it reports. -/
theorem run_stopped (inputOnly : ∀ viewer, r.onFrame = some viewer → viewer.InputOnly)
    (proper : r.machine.ProperFault) (x : RunResult) (ended : (r.run limit).2 = some (.ok x)) :
    r.Stopped (r.run limit).1 x := by
  obtain ⟨period, s, paced, first⟩ := (run_result_iff r limit x).mp ended
  have followed := course_followed r s period x.steps x.outcome first.reached
  have machine : (r.run limit).1.machine = s.machine := by
    rw [first.run paced, finish_machine, left_machine]
  have frames : (r.run limit).1.frames = s.frames := by
    rw [first.run paced, finish_frames, left_frames]
  refine ⟨machine ▸ followed.alternates, frames ▸ followed.frames, ?_, ?_⟩
  · intro fault
    rw [machine]
    exact (course_counted inputOnly fault first.least first.reached).1
  · intro fault
    rw [machine]
    exact course_latched inputOnly proper fault first.least first.reached

end Whole

/-- A run stops at the first number of ticks at which there is a reason to, for the first of the
reasons that hold there.  It has made as many steps, showing the host a frame after each, and a
run with a limit always stops unless it breaks off. -/
theorem run_stops_first (r : Runner) (limit : Option Int)
    (inputOnly : ∀ viewer, r.onFrame = some viewer → viewer.InputOnly)
    (proper : r.machine.ProperFault) :
    (∀ x, (r.run limit).2 = some (.ok x) ↔
      ∃ period s, r.period? = .ok period ∧
        r.FirstStop period limit x.steps s x.outcome x.reason) ∧
    (∀ x, (r.run limit).2 = some (.ok x) → r.Stopped (r.run limit).1 x) ∧
    (limit.isSome → (∀ e, ¬ r.Breaks limit e) → ∃ x, (r.run limit).2 = some (.ok x)) := by
  refine ⟨run_result_iff r limit, run_stopped inputOnly proper, ?_⟩
  intro limited unbroken
  obtain ⟨k, rfl⟩ := Option.isSome_iff_exists.mp limited
  rcases run_limited r k with result | ⟨e, breaks⟩
  · exact result
  · exact absurd breaks (unbroken e)

/-! A machine whose only instruction jumps to itself, against a clock that stands still. -/

/-- The clock that always reads zero, after a number of readings. -/
def stillClock (reads : Nat) : Clock := { Clock.repeating (.whole 0) [] false with reads }

/-- Whether a runner that is not paced is about to carry out a jump to itself. -/
structure Circles (r : Runner) (breakpoints : List UInt16) : Prop where
  fault : r.machine.fault = none
  waiting : r.machine.waiting = none
  fetched : r.machine.fetched? = some (.ofBytes 0x12 0x00)
  counter : r.machine.registers.pc = 0x200
  breakpoints : r.machine.breakpoints = breakpoints
  pending : r.machine.timers.pendingUnits = 0
  clock : ∃ reads, r.clock = stillClock reads
  rate : r.rate = .whole 0
  last : ∀ before, r.last = some before → before = .whole 0
  inputOnly : ∀ viewer, r.onFrame = some viewer → viewer.InputOnly
  cancels : r.cancels = none

deriving instance DecidableEq for Except

section Circles
variable {r : Runner} {breakpoints : List UInt16}

theorem elapsedAt_still (last : ∀ before, r.last = some before → before = .whole 0) :
    r.elapsedAt (.whole 0) = .ok .zero := by
  unfold elapsedAt
  cases past : r.last with
  | none => rfl
  | some before =>
    have spent : (Number.whole 0).sub (.whole 0) >>= Number.toBinary64 = .ok .zero := by
      decide +kernel
    have scaled : Binary64.zero.mul (.ofQuotient false (1000 * Binary64.unitsPerOne) 1) = .zero := by
      decide +kernel
    rw [last before past]
    simp only [spent, scaled]

theorem Circles.loops (circles : r.Circles breakpoints) : r.machine.Loops :=
  ⟨circles.fault, circles.waiting, circles.fetched, circles.counter⟩

/-- The jump moves nothing. -/
theorem Circles.step (circles : r.Circles breakpoints) :
    ∃ t, r.machine.step Timers.noTime = .ok t ∧ t.outcome = .running ∧
      { r with machine := t.machine }.Circles breakpoints := by
  obtain ⟨t, stepped, result⟩ := r.machine.step_success Timers.noTime _ _
    (Timers.update_noTime _ circles.pending)
  obtain ⟨running, loops, timers, _, same, _⟩ := circles.loops.result result
  have pending : t.machine.timers.pendingUnits = 0 := by
    rw [timers]
    rfl
  exact ⟨t, stepped, running, loops.fault, loops.waiting, loops.fetched, loops.counter,
    same.trans circles.breakpoints, pending, circles.clock, circles.rate, circles.last,
    circles.inputOnly, circles.cancels⟩

/-- So a turn leaves the runner where it was. -/
theorem Circles.turn (circles : r.Circles breakpoints) :
    ∃ s, r.turn none = (s, .ok .running) ∧ s.Circles breakpoints := by
  obtain ⟨t, stepped, running, after⟩ := circles.step
  obtain ⟨reads, clock⟩ := circles.clock
  have read : r.clock.read = .ok (.whole 0, stillClock (reads + 1)) := by
    rw [clock]
    rfl
  have elapsed : ({ r with clock := stillClock (reads + 1) } : Runner).elapsedAt (.whole 0) =
      .ok .zero := elapsedAt_still circles.last
  have given : r.machine.step (.number (.real .zero)) = .ok t := stepped
  have turned : r.turn none = ((({ r with
      clock := stillClock (reads + 1), last := some (.whole 0),
      machine := t.machine } : Runner).report t.notices).showFrame, .ok .running) := by
    unfold Runner.turn tick readClock
    simp only [read, tickAt, elapsed, given, running]
    rfl
  refine ⟨_, turned, ?_⟩
  obtain ⟨input, viewed⟩ := viewed_inputOnly circles.inputOnly r.frames t.machine
  rw [report_eq]
  obtain ⟨events, seen⟩ := showFrame_eq { r with
    clock := stillClock (reads + 1), last := some (.whole 0), machine := t.machine
    events := r.events ++ (t.notices.map RunEvent.notice).toArray }
  rw [seen, viewed]
  refine ⟨after.fault, after.waiting, after.fetched, after.counter, after.breakpoints,
    after.pending, ⟨reads + 1, rfl⟩, after.rate, ?_, after.inputOnly, after.cancels⟩
  rintro _ ⟨⟩
  rfl

theorem Circles.ask (circles : r.Circles breakpoints) : r.ask = (r, false) := by
  rw [Runner.ask, circles.cancels]

theorem Circles.course (circles : r.Circles breakpoints) :
    ∃ s, s.Circles breakpoints ∧ r.course none 1 = (s, .ok .running) := by
  obtain ⟨s, turned, after⟩ := circles.turn
  have one : r.course none 1 = r.ask.1.turn none := rfl
  exact ⟨s, after, by rw [one, circles.ask, turned]⟩

/-- Nothing but a limit of zero stops a run before its first tick. -/
theorem Circles.goesOn (circles : r.Circles breakpoints) (k : Nat) :
    ∀ n < 1, r.GoesOn none (some (k + 1)) n := by
  intro n below
  obtain rfl : n = 0 := by omega
  have quiet : Outcome.running.kind = .running := rfl
  refine ⟨r, .running, rfl, ?_⟩
  simp [reason?, reasons, holds, quiet, circles.cancels]

theorem Circles.limit (circles : r.Circles breakpoints) :
    ∃ s, s.Circles breakpoints ∧ r.FirstStop none (some 1) 1 s .running .limit := by
  obtain ⟨s, after, reached⟩ := circles.course
  have quiet : Outcome.running.kind = .running := rfl
  refine ⟨s, after, reached, ?_, circles.goesOn 0⟩
  simp [reason?, reasons, holds, quiet, circles.cancels]

/-- A greater limit lets the run come to the breakpoint again. -/
theorem Circles.breakpoint (circles : r.Circles [0x200]) (k : Nat) :
    ∃ s, s.Circles [0x200] ∧ r.FirstStop none (some (k + 2)) 1 s .running .breakpoint := by
  obtain ⟨s, after, reached⟩ := circles.course
  have quiet : Outcome.running.kind = .running := rfl
  have early : (1 : Int) < k + 2 := by omega
  have arrived : s.machine.atBreakpoint = true := by
    rw [Machine.atBreakpoint, after.breakpoints, after.counter]
    rfl
  refine ⟨s, after, reached, ?_, fun n below => ?_⟩
  · simp [reason?, reasons, holds, quiet, circles.cancels, early, arrived, after.waiting]
  · obtain ⟨t, o, start, free⟩ := circles.goesOn (k + 1) n below
    exact ⟨t, o, start, free⟩

end Circles

/-- A machine that loops can go on stepping for any number of steps, and counts them. -/
theorem loops_alternate (r : Runner) (loops : r.machine.Loops)
    (pending : r.machine.timers.pendingUnits = 0)
    (inputOnly : ∀ viewer, r.onFrame = some viewer → viewer.InputOnly) (n : Nat) :
    ∃ m o, r.Alternates n m o ∧ m.Loops ∧ m.timers.pendingUnits = 0 ∧
      m.steps = r.machine.steps + n := by
  induction n with
  | zero => exact ⟨r.machine, .running, .start, loops, pending, rfl⟩
  | succ n ih =>
    obtain ⟨m, o, before, loops, rest, steps⟩ := ih
    obtain ⟨t, stepped, result⟩ := m.step_success Timers.noTime _ _ (Timers.update_noTime _ rest)
    obtain ⟨_, again, timers, _, _, counted⟩ := loops.result result
    obtain ⟨input, seen⟩ := viewed_inputOnly inputOnly (r.frames + shown r.onFrame n) t.machine
    refine ⟨_, t.outcome, .next n m o Timers.noTime t before stepped, ?_⟩
    rw [seen]
    refine ⟨⟨again.fault, again.waiting, again.fetched, again.counter⟩, ?_, ?_⟩
    · exact congrArg Timers.pendingUnits timers
    · exact counted.trans (by rw [steps, Nat.add_assoc])

/-- A program that jumps to itself. -/
def loop : Machine := (Machine.fresh (.keypad {}) (.repeating [])).session [.load [0x12, 0x00]]

/-- A runner whose host holds a key down. -/
def circling (m : Machine) : Runner where
  machine := m
  clock := stillClock 0
  rate := .whole 0
  onFrame := some (.script fun _ => [.press (lowKey 0x5)])

theorem circling_circles (address : Int) :
    (circling (loop.addBreakpoint address)).Circles [UInt16.ofInt address] where
  fault := rfl
  waiting := rfl
  fetched := Machine.fetched_load _ Memory.initial 0x12 0x00 [] rfl rfl
  counter := rfl
  breakpoints := rfl
  pending := rfl
  clock := ⟨0, rfl⟩
  rate := rfl
  last := nofun
  inputOnly := scripted_inputOnly rfl
  cancels := rfl

/-- The run goes on at the breakpoint at which it begins, and stops when it comes back to it. -/
theorem run_stops_first_circling :
    let r := circling (loop.addBreakpoint 0x200)
    (r.run (some 5)).2 = some (.ok ⟨.breakpoint, .running, 1⟩) ∧
      (r.run (some 5)).1.machine.steps = 1 ∧ (r.run (some 5)).1.frames = 1 := by
  have circles := circling_circles 0x200
  have proper : (loop.addBreakpoint 0x200).ProperFault :=
    Machine.Reachable.properFault ⟨_, _, [.load [0x12, 0x00], .addBreakpoint 0x200], rfl⟩
  obtain ⟨result, stopped, _⟩ := run_stops_first _ (some 5) circles.inputOnly proper
  obtain ⟨s, _, first⟩ := circles.breakpoint 3
  have ended := (result ⟨.breakpoint, .running, 1⟩).mpr ⟨none, s, rfl, first⟩
  have made := stopped _ ended
  exact ⟨ended, made.counted rfl, made.frames⟩

end Runner
end Chip8
