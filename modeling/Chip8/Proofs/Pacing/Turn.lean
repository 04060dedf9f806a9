import Chip8.Pacing

/-!
# One turn of a run

A turn that does not break off makes one step of the machine and then shows the host one frame.  It
leaves the settings of the runner alone, and what was reported before it plays no part in it.
-/
namespace Chip8.Runner

/-- The machine as a host leaves it when it is shown as the frame after `i` others. -/
def viewed (host : Option Viewer) (i : Nat) (m : Machine) : Machine :=
  match host with
  | none => m
  | some viewer => (viewer.watch i m).1

/-- The number of frames that a host is shown in `n` ticks. -/
def shown (host : Option Viewer) (n : Nat) : Nat := if host.isSome then n else 0

/-- What a turn makes of a runner when it comes to an outcome. -/
structure Turned (r s : Runner) (o : Outcome) : Prop where
  rate : s.rate = r.rate
  onFrame : s.onFrame = r.onFrame
  cancels : s.cancels = r.cancels
  asked : s.asked = r.asked
  frames : s.frames = r.frames + shown r.onFrame 1
  machine : ∃ elapsed t, r.machine.step elapsed = .ok t ∧ t.outcome = o ∧
    s.machine = viewed r.onFrame r.frames t.machine

/-- Reporting adds to the events and changes nothing else. -/
theorem report_eq (r : Runner) (notices : List Notice) :
    r.report notices = { r with events := r.events ++ (notices.map RunEvent.notice).toArray } := by
  unfold report
  rw [List.foldl_push_eq_append]

theorem showFrame_eq (r : Runner) :
    ∃ events, r.showFrame = { r with
      machine := viewed r.onFrame r.frames r.machine
      frames := r.frames + shown r.onFrame 1, events } := by
  obtain ⟨machine, clock, rate, last, onFrame, frames, cancels, asked, events⟩ := r
  cases onFrame with
  | none => exact ⟨events, rfl⟩
  | some viewer =>
    simp only [showFrame, report_eq]
    exact ⟨_, rfl⟩

/-- A tick with the time that it gives to the machine and the step that the machine makes. -/
theorem tickAt_eq {r : Runner} {now : Number} {elapsed : Binary64} {t : Transition}
    (given : r.elapsedAt now = .ok elapsed)
    (stepped : r.machine.step (.number (.real elapsed)) = .ok t) :
    ∃ events, r.tickAt now = ({ r with
      last := some now, machine := viewed r.onFrame r.frames t.machine
      frames := r.frames + shown r.onFrame 1, events }, .ok t.outcome) := by
  unfold tickAt
  simp only [given, stepped, report_eq]
  obtain ⟨events, seen⟩ := showFrame_eq { r with
    last := some now, machine := t.machine
    events := r.events ++ (t.notices.map RunEvent.notice).toArray }
  rw [seen]
  exact ⟨events, rfl⟩

/-- A tick that comes to an outcome makes one step of the machine and shows the host one frame. -/
theorem tick_turned (r s : Runner) (o : Outcome) (ticked : r.tick = (s, .ok o)) : Turned r s o := by
  unfold tick readClock at ticked
  cases read : r.clock.read with
  | error e =>
    simp only [read] at ticked
    cases ticked
  | ok reading =>
    obtain ⟨now, clock⟩ := reading
    simp only [read] at ticked
    cases given : ({ r with clock } : Runner).elapsedAt now with
    | error e =>
      simp only [tickAt, given] at ticked
      cases ticked
    | ok elapsed =>
      cases stepped : r.machine.step (.number (.real elapsed)) with
      | error e =>
        simp only [tickAt, given, stepped] at ticked
        cases ticked
      | ok t =>
        obtain ⟨events, made⟩ := tickAt_eq given stepped
        rw [made] at ticked
        cases ticked
        exact ⟨rfl, rfl, rfl, rfl, rfl, _, t, stepped, rfl, rfl⟩

/-- A pause, whatever it comes to, moves the clock on and may be reported, and changes nothing
else. -/
theorem pause_fst (r : Runner) (period : Binary64) :
    ∃ clock events, (r.pause period).1 = { r with clock, events } := by
  unfold pause readClock
  cases r.clock.read with
  | error e => exact ⟨_, _, rfl⟩
  | ok reading =>
    dsimp only
    split
    · exact ⟨_, _, rfl⟩
    · exact ⟨_, _, rfl⟩
    · exact ⟨_, _, rfl⟩

theorem pause_eq (r s : Runner) (period : Binary64) (paused : r.pause period = (s, .ok ())) :
    s = { r with clock := s.clock, events := s.events } := by
  obtain ⟨clock, events, left⟩ := r.pause_fst period
  rw [paused] at left
  obtain rfl : s = { r with clock, events } := left
  rfl

/-- What follows the tick of a turn is a pause or nothing. -/
theorem turn_fst (r : Runner) (period : Option Binary64) :
    ∃ clock events, (r.turn period).1 = { r.tick.1 with clock, events } := by
  unfold turn
  rcases r.tick with ⟨s, e | o⟩
  · exact ⟨_, _, rfl⟩
  · dsimp only
    split
    · next p _ =>
      obtain ⟨clock, events, paused⟩ := s.pause_fst p
      rcases pausing : s.pause p with ⟨t, e | _⟩
      · rw [pausing] at paused
        exact ⟨clock, events, paused⟩
      · rw [pausing] at paused
        exact ⟨clock, events, paused⟩
    · exact ⟨_, _, rfl⟩

/-- A turn makes one step and shows one frame too. -/
theorem turn_turned (r s : Runner) (period : Option Binary64) (o : Outcome)
    (turned : r.turn period = (s, .ok o)) : Turned r s o := by
  unfold turn at turned
  split at turned
  · cases turned
  · next t outcome ticked =>
    have one := tick_turned r t outcome ticked
    split at turned
    · next _ p _ =>
      split at turned
      · cases turned
      · next paused =>
        cases turned
        rw [pause_eq t s p paused]
        exact ⟨one.rate, one.onFrame, one.cancels, one.asked, one.frames, one.machine⟩
    · cases turned
      exact one

/-! Events before a turn stay before what it adds. -/

/-- The runner with some events before all of its own. -/
def preceded (r : Runner) (events : Array RunEvent) : Runner :=
  { r with events := events ++ r.events }

section Preceded
variable (r : Runner) (before : Array RunEvent)

theorem report_preceded (notices : List Notice) :
    (r.preceded before).report notices = (r.report notices).preceded before := by
  simp only [report_eq, preceded, Array.append_assoc]

theorem showFrame_preceded : (r.preceded before).showFrame = r.showFrame.preceded before := by
  obtain ⟨machine, clock, rate, last, onFrame, frames, cancels, asked, events⟩ := r
  cases onFrame with
  | none => rfl
  | some viewer =>
    simp only [showFrame, preceded, report_eq, Array.push_append, Array.append_assoc]

theorem ask_preceded : (r.preceded before).ask = (r.ask.1.preceded before, r.ask.2) := by
  obtain ⟨machine, clock, rate, last, onFrame, frames, cancels, asked, events⟩ := r
  cases cancels <;> rfl

theorem readClock_preceded :
    (r.preceded before).readClock = r.readClock.map fun x => (x.1, x.2.preceded before) := by
  have clock : (r.preceded before).clock = r.clock := rfl
  unfold readClock
  rw [clock]
  rcases r.clock.read with e | ⟨now, clock⟩ <;> rfl

theorem tickAt_preceded (now : Number) :
    (r.preceded before).tickAt now = ((r.tickAt now).1.preceded before, (r.tickAt now).2) := by
  have elapsed : (r.preceded before).elapsedAt now = r.elapsedAt now := rfl
  have machine : (r.preceded before).machine = r.machine := rfl
  unfold tickAt
  rw [elapsed]
  rcases r.elapsedAt now with e | elapsed
  · rfl
  · dsimp only
    rw [machine]
    rcases r.machine.step (.number (.real elapsed)) with e | t
    · rfl
    · dsimp only
      rw [← showFrame_preceded, ← report_preceded]
      rfl

theorem tick_preceded :
    (r.preceded before).tick = (r.tick.1.preceded before, r.tick.2) := by
  unfold tick
  rw [readClock_preceded]
  rcases r.readClock with e | ⟨now, s⟩
  · rfl
  · exact tickAt_preceded s before now

theorem pause_preceded (period : Binary64) :
    (r.preceded before).pause period = ((r.pause period).1.preceded before, (r.pause period).2) := by
  unfold pause
  rw [readClock_preceded]
  rcases r.readClock with e | ⟨now, s⟩
  · rfl
  · have remaining : (s.preceded before).remainingAt period now = s.remainingAt period now := rfl
    dsimp only [Except.map]
    rw [remaining]
    rcases s.remainingAt period now with e | _ | seconds
    · rfl
    · rfl
    · simp only [sleep, preceded, Array.push_append]

theorem turn_preceded (period : Option Binary64) :
    (r.preceded before).turn period = ((r.turn period).1.preceded before, (r.turn period).2) := by
  unfold turn
  rw [tick_preceded]
  rcases r.tick with ⟨s, e | outcome⟩
  · rfl
  · dsimp only
    split
    · next _ p _ =>
      rw [pause_preceded]
      rcases s.pause p with ⟨t, e | _⟩ <;> rfl
    · rfl

end Preceded

end Chip8.Runner
