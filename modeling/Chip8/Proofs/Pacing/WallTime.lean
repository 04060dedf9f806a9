import Chip8.Proofs.Machine.Changes
import Chip8.Proofs.Numeral.Exact
import Chip8.Proofs.Pacing.FirstStop
import Mathlib.Data.List.Forall2

/-!
# Wall time

A runner ticks by itself and in runs, and its clock is also read between the ticks, to pace a run.
The time that a tick gives to the machine reaches from the reading of the tick before to its own
reading: the times of several ticks add up to the time from the first reading to the last, and the
readings in between play no part.  Where the readings are whole seconds nothing is rounded and
nothing stays pending.
-/
namespace Chip8

/-- Whether a host that is shown a frame leaves the time of the timers alone. -/
def Viewer.KeepsTime (viewer : Viewer) : Prop :=
  ∀ i m, (viewer.watch i m).1.timers.ticks = m.timers.ticks ∧
    (viewer.watch i m).1.timers.pendingUnits = m.timers.pendingUnits

/-- Readings that are whole seconds, in order and less than `2³⁰` seconds apart.  They may be whole
numbers of any size, or double-precision numbers, or both as long as the whole ones are converted
exactly. -/
structure WholeSeconds (readings : List Number) (seconds : List Int) : Prop where
  equal : List.Forall₂ Number.Equals readings seconds
  convertible : Number.Convertible readings
  ordered : seconds.Pairwise (· ≤ ·)
  short : ∀ a ∈ seconds, ∀ b ∈ seconds, b - a < 2 ^ 30

/-- The seconds from the first of some readings to the last. -/
def lapse (seconds : List Int) : Int := seconds.getLastD 0 - seconds.headD 0

namespace Runner

/-! ## The readings of the ticks -/

/-- What a host calls a runner for. -/
inductive Call where
  | tick
  | run (limit : Option Int)

/-- The next reading of the clock, if it gives one. -/
def nextReading? (r : Runner) : Option Number := r.readClock.toOption.map Prod.fst

/-- The readings that the ticks of the first `n` turns of a run take. -/
def tickReadings (r : Runner) (period : Option Binary64) : Nat → List Number
  | 0 => []
  | n + 1 => r.tickReadings period n ++ (r.course period n).1.ask.1.nextReading?.toList

/-- The readings that the ticks of a run take that comes to an end. -/
inductive RunTakes (r : Runner) (limit : Option Int) : List Number → Prop where
  | unpaced {e : RunError} (unpaced : r.period? = .error e) : RunTakes r limit []
  | stopped {period : Option Binary64} {n : Nat} {s : Runner} {o : Outcome} {reason : StopReason}
    (paced : r.period? = .ok period) (first : r.FirstStop period limit n s o reason) :
    RunTakes r limit (r.tickReadings period n)
  | broken {period : Option Binary64} {n : Nat} {s : Runner} {e : RunError}
    (paced : r.period? = .ok period) (broken : r.Broken period limit n s e) :
    RunTakes r limit (r.tickReadings period n)

/-- The runner after some calls, and the readings that the ticks in them take. -/
inductive After (r : Runner) : List Call → Runner → List Number → Prop where
  | start : After r [] r []
  | tick {calls : List Call} {s : Runner} {readings : List Number}
    (before : After r calls s readings) :
    After r (calls ++ [.tick]) s.tick.1 (readings ++ s.nextReading?.toList)
  | run {calls : List Call} {s : Runner} {readings taken : List Number} {limit : Option Int}
    (before : After r calls s readings) (takes : s.RunTakes limit taken) :
    After r (calls ++ [.run limit]) (s.run limit).1 (readings ++ taken)

/-- The runner after some calls, or when a run that comes after them has made some turns. -/
inductive Moment (r : Runner) (calls : List Call) : Runner → List Number → Prop where
  | between {s : Runner} {readings : List Number} (after : r.After calls s readings) :
    Moment r calls s readings
  | within {s : Runner} {readings : List Number} {period : Option Binary64} {limit : Option Int}
    {n : Nat} (after : r.After calls s readings) (paced : s.period? = .ok period)
    (going : ∀ k < n, s.GoesOn period limit k) :
    Moment r calls (s.course period n).1 (readings ++ s.tickReadings period n)

/-- Every run that comes to an end has ticks that take readings. -/
theorem runTakes_of_ended (r : Runner) (limit : Option Int) (ended : (r.run limit).2 ≠ none) :
    ∃ taken, r.RunTakes limit taken := by
  rcases r.run_ends limit with ⟨period, n, s, o, reason, paced, first⟩ |
    ⟨e, unpaced | ⟨period, n, s, paced, broken⟩⟩ | ⟨period, paced, going⟩
  · exact ⟨_, .stopped paced first⟩
  · exact ⟨_, .unpaced unpaced⟩
  · exact ⟨_, .broken paced broken⟩
  · exact absurd (run_endless paced going) ended

/-! ## One tick -/

theorem viewed_keepsTime {host : Option Viewer}
    (keeps : ∀ viewer, host = some viewer → viewer.KeepsTime) (i : Nat) (m : Machine) :
    (viewed host i m).timers.ticks = m.timers.ticks ∧
      (viewed host i m).timers.pendingUnits = m.timers.pendingUnits := by
  cases host with
  | none => exact ⟨rfl, rfl⟩
  | some viewer => exact keeps viewer rfl i m

section Tick
variable {r : Runner} {now : Number}

/-- A machine with nothing pending counts whole seconds completely. -/
theorem step_counts {m : Machine} {elapsed : Binary64} {d : Nat}
    (rest : m.timers.pendingUnits = 0) (equal : elapsed.Equals (1000 * d : Nat))
    (short : d < 2 ^ 30) :
    ∃ t, m.step (.number (.real elapsed)) = .ok t ∧
      Machine.StepResult m (m.timers.countDown (60 * d) 0) t.machine t.outcome := by
  have accepted := m.timers.update_whole (.number (.real elapsed)) 0 (1000 * d)
    (by rw [rest, Nat.zero_mul]) (by decide) (Binary64.milliseconds?_equals equal) (by omega) nofun
  have sixty : (0 + 60 * (1000 * d)) / 1000 = 60 * d := by omega
  have none : (0 + 60 * (1000 * d)) % 1000 = 0 := by omega
  rw [sixty, none, Nat.zero_mul] at accepted
  exact m.step_success _ _ _ accepted

/-- So does one that is given them by a tick. -/
theorem tickAt_counts {elapsed : Binary64} {d : Nat}
    (keeps : ∀ viewer, r.onFrame = some viewer → viewer.KeepsTime)
    (rest : r.machine.timers.pendingUnits = 0) (given : r.elapsedAt now = .ok elapsed)
    (equal : elapsed.Equals (1000 * d : Nat)) (short : d < 2 ^ 30) :
    (r.tickAt now).1.last = some now ∧
      (r.tickAt now).1.machine.timers.ticks = r.machine.timers.ticks + 60 * d ∧
      (r.tickAt now).1.machine.timers.pendingUnits = 0 := by
  obtain ⟨t, stepped, result⟩ := step_counts rest equal short
  obtain ⟨pending, ticks⟩ := result.changes.clock
  obtain ⟨events, ticked⟩ := tickAt_eq given stepped
  have kept := viewed_keepsTime keeps r.frames t.machine
  rw [ticked]
  exact ⟨rfl, kept.1.trans ticks, kept.2.trans pending⟩

theorem tickAt_onFrame (r : Runner) (now : Number) : (r.tickAt now).1.onFrame = r.onFrame := by
  cases given : r.elapsedAt now with
  | error e => simp only [Runner.tickAt, given]
  | ok elapsed =>
    cases stepped : r.machine.step (.number (.real elapsed)) with
    | error e => simp only [Runner.tickAt, given, stepped]
    | ok t =>
      obtain ⟨events, ticked⟩ := tickAt_eq given stepped
      rw [ticked]

theorem elapsedAt_first (first : r.last = none) : r.elapsedAt now = .ok .zero := by
  simp only [elapsedAt, first]

/-- The milliseconds between two readings that are whole seconds. -/
theorem elapsedAt_later {before : Number} {m n : Int} (last : r.last = some before)
    (earlier : before.Equals m) (later : now.Equals n)
    (convertible : Number.Convertible [now, before]) (ordered : m ≤ n) (short : n - m < 2 ^ 30) :
    ∃ elapsed, r.elapsedAt now = .ok elapsed ∧ elapsed.Equals (1000 * (n - m).toNat : Nat) := by
  obtain ⟨seconds, spent, equal⟩ := Number.sub_equals later earlier convertible (by omega)
  have scaled := Binary64.mul_equals equal Binary64.thousand_equals (by omega)
  have size : (n - m) * 1000 = ((1000 * (n - m).toNat : Nat) : Int) := by omega
  refine ⟨_, ?_, size ▸ scaled⟩
  simp only [elapsedAt, last, spent]

end Tick

end Runner

section Seconds
variable {readings : List Number} {now : Number} {seconds : List Int}

/-- Whole seconds without the last one. -/
theorem WholeSeconds.init (whole : WholeSeconds (readings ++ [now]) seconds) :
    ∃ earlier n, seconds = earlier ++ [n] ∧ WholeSeconds readings earlier ∧ now.Equals n ∧
      ∀ m ∈ earlier, m ≤ n ∧ n - m < 2 ^ 30 := by
  obtain ⟨equal, convertible, ordered, short⟩ := whole
  rcases seconds.eq_nil_or_concat' with rfl | ⟨earlier, n, rfl⟩
  · have length := equal.length_eq
    simp at length
  · rw [← List.forall₂_reverse_iff, List.reverse_append, List.reverse_append] at equal
    obtain ⟨last, others⟩ := List.forall₂_cons.mp equal
    obtain ⟨sorted, _, before⟩ := List.pairwise_append.mp ordered
    have inner : ∀ m ∈ earlier, m ∈ earlier ++ [n] := fun m member =>
      List.mem_append_left _ member
    refine ⟨earlier, n, rfl, ⟨List.forall₂_reverse_iff.mp others, ?_, sorted, ?_⟩, last, ?_⟩
    · exact convertible.mono (List.subset_append_left _ _)
    · exact fun a first b second => short a (inner a first) b (inner b second)
    · exact fun m member => ⟨before m member n (List.mem_singleton_self n),
        short m (inner m member) n (List.mem_append_right _ (List.mem_singleton_self n))⟩

end Seconds

namespace Runner

/-! ## Many ticks -/

/-- Whether a runner has counted the time between the readings of its ticks, if these are whole
seconds. -/
structure Counted (r s : Runner) (readings : List Number) : Prop where
  onFrame : s.onFrame = r.onFrame
  time : ∀ seconds, WholeSeconds readings seconds →
    s.last = readings.getLast? ∧
    (s.machine.timers.ticks : Int) = r.machine.timers.ticks + 60 * lapse seconds ∧
    s.machine.timers.pendingUnits = 0

section Counted
variable {r s t : Runner} {readings : List Number}

theorem Counted.start (first : r.last = none) (rest : r.machine.timers.pendingUnits = 0) :
    r.Counted r [] where
  onFrame := rfl
  time := by
    intro seconds whole
    cases whole.equal
    exact ⟨first, by simp [lapse], rest⟩

/-- What a runner does to its clock and reports is not counted. -/
theorem Counted.congr (counted : r.Counted s readings) (onFrame : t.onFrame = s.onFrame)
    (last : t.last = s.last) (machine : t.machine = s.machine) : r.Counted t readings where
  onFrame := onFrame.trans counted.onFrame
  time := by
    rw [last, machine]
    exact counted.time

/-- The time that is given to a machine goes on from where the times before it end. -/
theorem Counted.elapsed (counted : r.Counted s readings) {now : Number} {earlier : List Int}
    {n : Int} (whole : WholeSeconds (readings ++ [now]) (earlier ++ [n])) :
    ∃ elapsed d, s.elapsedAt now = .ok elapsed ∧ elapsed.Equals (1000 * d : Nat) ∧ d < 2 ^ 30 ∧
      lapse (earlier ++ [n]) = lapse earlier + d := by
  obtain ⟨_, _, same, before, equal, near⟩ := whole.init
  obtain ⟨rfl, rfl⟩ := List.append_singleton_inj.mp same
  obtain ⟨last, _⟩ := counted.time earlier before
  rcases readings.eq_nil_or_concat' with rfl | ⟨others, previous, rfl⟩
  · cases before.equal
    exact ⟨.zero, 0, elapsedAt_first last, Binary64.zero_equals, by decide, by simp [lapse]⟩
  · obtain ⟨first, m, rfl, _, past, _⟩ := before.init
    rw [List.getLast?_concat] at last
    obtain ⟨ordered, short⟩ := near m (by simp)
    have convertible : Number.Convertible [now, previous] := whole.convertible.mono (by simp)
    obtain ⟨elapsed, given, exact⟩ := elapsedAt_later last past equal convertible ordered short
    refine ⟨elapsed, (n - m).toNat, given, exact, by omega, ?_⟩
    have head : (first ++ [m] ++ [n]).headD 0 = (first ++ [m]).headD 0 := by
      cases first <;> rfl
    rw [lapse, lapse, List.getLastD_concat, List.getLastD_concat, head]
    omega

theorem Counted.tickAt (counted : r.Counted s readings)
    (keeps : ∀ viewer, r.onFrame = some viewer → viewer.KeepsTime) (now : Number) :
    r.Counted (s.tickAt now).1 (readings ++ [now]) where
  onFrame := (s.tickAt_onFrame now).trans counted.onFrame
  time := by
    intro seconds whole
    obtain ⟨earlier, n, rfl, before, _⟩ := whole.init
    obtain ⟨_, ticks, rest⟩ := counted.time earlier before
    obtain ⟨elapsed, d, given, equal, short, longer⟩ := counted.elapsed whole
    rw [← counted.onFrame] at keeps
    obtain ⟨last, more, nothing⟩ := tickAt_counts keeps rest given equal short
    rw [List.getLast?_concat, longer, more]
    exact ⟨last, by omega, nothing⟩

theorem Counted.tick (counted : r.Counted s readings)
    (keeps : ∀ viewer, r.onFrame = some viewer → viewer.KeepsTime) :
    r.Counted s.tick.1 (readings ++ s.nextReading?.toList) := by
  unfold Runner.tick nextReading? readClock
  cases s.clock.read with
  | error e =>
    simpa [Except.toOption] using counted
  | ok reading =>
    obtain ⟨now, clock⟩ := reading
    exact (counted.congr (t := { s with clock }) rfl rfl rfl).tickAt keeps now

theorem Counted.turn (counted : r.Counted s readings)
    (keeps : ∀ viewer, r.onFrame = some viewer → viewer.KeepsTime) (period : Option Binary64) :
    r.Counted (s.turn period).1 (readings ++ s.nextReading?.toList) := by
  obtain ⟨clock, events, turned⟩ := s.turn_fst period
  rw [turned]
  exact (counted.tick keeps).congr rfl rfl rfl

theorem Counted.ask (counted : r.Counted s readings) : r.Counted s.ask.1 readings := by
  rw [ask_eq]
  exact counted.congr rfl rfl rfl

/-- The ticks of a run, turn after turn. -/
theorem Counted.course (counted : r.Counted s readings)
    (keeps : ∀ viewer, r.onFrame = some viewer → viewer.KeepsTime) {period : Option Binary64}
    {limit : Option Int} {n : Nat} (going : ∀ k < n, s.GoesOn period limit k) :
    r.Counted (s.course period n).1 (readings ++ s.tickReadings period n) := by
  induction n with
  | zero =>
    rw [tickReadings, List.append_nil]
    exact counted
  | succ n ih =>
    have before := ih fun k below => going k (Nat.lt_succ_of_lt below)
    obtain ⟨t, o, reached, _⟩ := going n (Nat.lt_succ_self n)
    rw [tickReadings, Runner.course, reached, ← List.append_assoc]
    rw [reached] at before
    exact before.ask.turn keeps period

theorem Counted.left (counted : r.Counted s readings) (o : Outcome) :
    r.Counted (s.left o) readings := by
  unfold Runner.left
  split
  · exact counted
  · exact counted.ask

theorem Counted.run (counted : r.Counted s readings)
    (keeps : ∀ viewer, r.onFrame = some viewer → viewer.KeepsTime) {limit : Option Int}
    {taken : List Number} (takes : s.RunTakes limit taken) :
    r.Counted (s.run limit).1 (readings ++ taken) := by
  cases takes with
  | unpaced unpaced =>
    have same : (s.run limit).1 = s := by simp only [Runner.run, unpaced]
    rw [same, List.append_nil]
    exact counted
  | stopped paced first =>
    have made := counted.course keeps first.least
    rw [first.reached] at made
    rw [first.run paced, finish, report_eq]
    exact (made.left _).congr rfl rfl rfl
  | @broken period n t e paced broken =>
    have made := counted.course keeps broken.least
    have same : (s.run limit).1 = t := by simp only [Runner.run, paced, broken.runFrom]
    rw [broken.broken] at made
    rw [same]
    exact made

theorem After.counted {calls : List Call} (after : r.After calls s readings)
    (first : r.last = none) (rest : r.machine.timers.pendingUnits = 0)
    (keeps : ∀ viewer, r.onFrame = some viewer → viewer.KeepsTime) : r.Counted s readings := by
  induction after with
  | start => exact .start first rest
  | tick _ ih => exact ih.tick keeps
  | run _ takes ih => exact ih.run keeps takes

end Counted

/-- No wall time is lost or counted twice.  When the first tick of a runner is yet to come and
nothing is pending, the timers count sixty ticks for every second between the readings of the first
tick and the last, and nothing stays pending: after any ticks and runs, for whatever reason a run
has stopped or broken off, and while another run is under way. -/
theorem wall_time_counted (r s : Runner) (calls : List Call) (readings : List Number)
    (seconds : List Int) (first : r.last = none) (rest : r.machine.timers.pendingUnits = 0)
    (keeps : ∀ viewer, r.onFrame = some viewer → viewer.KeepsTime)
    (moment : r.Moment calls s readings) (whole : WholeSeconds readings seconds) :
    (s.machine.timers.ticks : Int) = r.machine.timers.ticks + 60 * lapse seconds ∧
      s.machine.timers.pendingUnits = 0 := by
  have counted : r.Counted s readings := by
    cases moment with
    | between after => exact after.counted first rest keeps
    | within after paced going => exact (after.counted first rest keeps).course keeps going
  exact (counted.time seconds whole).2

/-! A machine that jumps to itself, against a clock that shows one second more at every reading. -/

/-- The clock that has been read `k` times since it showed five seconds. -/
def secondsClock (k : Nat) : Clock :=
  { Clock.repeating (.whole 5) [.whole 1] false with now := .whole (5 + k), reads := k }

/-- A runner with such a machine, such a clock and a rate of sixty. -/
structure Marches (r : Runner) (k : Nat) : Prop where
  loops : r.machine.Loops
  rest : r.machine.timers.pendingUnits = 0
  clock : r.clock = secondsClock k
  last : ∀ before, r.last = some before → ∃ j ≤ k, before = .whole (5 + j)
  rate : r.rate = .whole 60
  onFrame : r.onFrame = none
  cancels : r.cancels = none

section Marches
variable {r : Runner} {k : Nat}

theorem secondsClock_read (k : Nat) :
    (secondsClock k).read = .ok (.whole (5 + k), secondsClock (k + 1)) := by
  simp [Clock.read, secondsClock, Clock.repeating, Nat.mod_one, Number.add, Number.combine,
    Int.add_assoc]

theorem Marches.read (marches : r.Marches k) :
    r.readClock = .ok (.whole (5 + k), { r with clock := secondsClock (k + 1) }) := by
  simp only [readClock, marches.clock, secondsClock_read]

theorem Marches.elapsed (marches : r.Marches k) (few : k < 2 ^ 30) :
    ∃ elapsed d, r.elapsedAt (.whole (5 + k)) = .ok elapsed ∧ elapsed.Equals (1000 * d : Nat) ∧
      d < 2 ^ 30 := by
  cases past : r.last with
  | none => exact ⟨.zero, 0, elapsedAt_first past, Binary64.zero_equals, by decide⟩
  | some before =>
    obtain ⟨j, le, rfl⟩ := marches.last before past
    have earlier : (Number.whole (5 + j)).Equals (5 + j) := rfl
    have later : (Number.whole (5 + k)).Equals (5 + k) := rfl
    obtain ⟨elapsed, given, equal⟩ :=
      elapsedAt_later past earlier later (.inl (by simp)) (by omega) (by omega)
    exact ⟨elapsed, _, given, equal, by omega⟩

theorem Marches.tick (marches : r.Marches k) (few : k < 2 ^ 30) :
    ∃ s, r.tick = (s, .ok .running) ∧ s.last = some (.whole (5 + k)) ∧ s.Marches (k + 1) := by
  obtain ⟨elapsed, d, given, equal, short⟩ := marches.elapsed few
  obtain ⟨t, stepped, result⟩ := step_counts marches.rest equal short
  obtain ⟨running, loops, timers, _⟩ := marches.loops.result result
  obtain ⟨events, ticked⟩ :=
    tickAt_eq (r := { r with clock := secondsClock (k + 1) }) given stepped
  have unseen : viewed r.onFrame r.frames t.machine = t.machine := by
    rw [marches.onFrame]
    rfl
  rw [unseen] at ticked
  refine ⟨{ r with
    clock := secondsClock (k + 1), last := some (.whole (5 + k)), machine := t.machine
    frames := r.frames + shown r.onFrame 1, events }, ?_, rfl, ?_⟩
  · unfold Runner.tick
    simp only [marches.read, ticked, running]
  · refine ⟨loops, by rw [timers]; rfl, rfl, ?_, marches.rate, marches.onFrame, marches.cancels⟩
    rintro _ ⟨⟩
    exact ⟨k, by omega, rfl⟩

/-- A pause takes another reading. -/
theorem Marches.pause (marches : r.Marches (k + 1)) (last : r.last = some (.whole (5 + k)))
    (period : Binary64) :
    ∃ s, r.pause period = (s, .ok ()) ∧ s.Marches (k + 2) := by
  have earlier : (Number.whole (5 + k)).Equals (5 + k) := rfl
  have later : (Number.whole (5 + (k + 1 : Nat))).Equals (5 + (k + 1 : Nat)) := rfl
  obtain ⟨spent, same, _⟩ := Number.sub_equals later earlier (.inl (by simp)) (by omega)
  have paused : ∀ before, some (Number.whole (5 + k)) = some before →
      ∃ j ≤ k + 2, before = .whole (5 + j) := by
    rintro _ ⟨⟩
    exact ⟨k, by omega, rfl⟩
  unfold Runner.pause
  simp only [marches.read, remainingAt, last, Option.getD_some, same]
  by_cases early : Binary64.zero.lt (period.sub spent) = true
  · rw [if_pos early]
    exact ⟨_, rfl, marches.loops, marches.rest, rfl, paused, marches.rate, marches.onFrame,
      marches.cancels⟩
  · rw [if_neg early]
    exact ⟨_, rfl, marches.loops, marches.rest, rfl, paused, marches.rate, marches.onFrame,
      marches.cancels⟩

theorem Marches.turn (marches : r.Marches k) (few : k < 2 ^ 30) (period : Binary64) :
    ∃ s, r.turn (some period) = (s, .ok .running) ∧ s.Marches (k + 2) := by
  obtain ⟨s, ticked, last, after⟩ := marches.tick few
  obtain ⟨t, paused, later⟩ := after.pause last period
  have running : stopAfter .running = none := rfl
  refine ⟨t, ?_, later⟩
  unfold Runner.turn
  simp only [ticked, running, paused]

theorem Marches.period? (marches : r.Marches k) : ∃ period, r.period? = .ok (some period) := by
  let sixty := Binary64.finite false (60 * Binary64.unitsPerOne)
  let period := (Binary64.finite false Binary64.unitsPerOne).div sixty
  have converted : (Number.whole 60).toBinary64 = .ok sixty := by decide +kernel
  have positive : ¬ period.isZero = true := by decide +kernel
  have paced : (Number.whole 60).isZero = false := rfl
  refine ⟨period, ?_⟩
  simp only [Runner.period?, marches.rate, paced, converted]
  exact congrArg Except.ok (if_neg positive)

/-- A run of one tick takes a reading for the tick and one for the pause. -/
theorem Marches.run (marches : r.Marches k) (few : k < 2 ^ 30) :
    r.RunTakes (some 1) [.whole (5 + k)] ∧ (r.run (some 1)).1.Marches (k + 2) := by
  obtain ⟨period, paced⟩ := marches.period?
  obtain ⟨s, turned, after⟩ := marches.turn few period
  have quiet : Outcome.running.kind = .running := rfl
  have asked : r.ask = (r, false) := by rw [Runner.ask, marches.cancels]
  have reached : r.course (some period) 1 = (s, .ok .running) := by
    have one : r.course (some period) 1 = r.ask.1.turn (some period) := rfl
    rw [one, asked, turned]
  have first : r.FirstStop (some period) (some 1) 1 s .running .limit := by
    refine ⟨reached, ?_, fun n below => ?_⟩
    · simp [reason?, reasons, holds, quiet, marches.cancels]
    · obtain rfl : n = 0 := by omega
      refine ⟨r, .running, rfl, ?_⟩
      simp [reason?, reasons, holds, quiet, marches.cancels]
  have taken : r.tickReadings (some period) 1 = [.whole (5 + k)] := by
    have next : r.ask.1.nextReading? = some (.whole (5 + k)) := by
      rw [asked, nextReading?, marches.read]
      rfl
    have one : r.tickReadings (some period) 1 = [] ++ r.ask.1.nextReading?.toList := rfl
    rw [one, next]
    rfl
  refine ⟨taken ▸ .stopped paced first, ?_⟩
  have left : s.left .running = s := by
    rw [Runner.left, Runner.ask, after.cancels]
    rfl
  rw [first.run paced, finish, report_eq, left]
  exact ⟨after.loops, after.rest, after.clock, after.last, after.rate, after.onFrame, after.cancels⟩

end Marches

/-- A runner of such a machine that has not been asked for anything. -/
def marching : Runner where
  machine := loop
  clock := secondsClock 0
  rate := .whole 60

/-- A tick at five seconds, a run with one at six that is paced at seven, and a tick at eight. -/
theorem wall_time_counted_marching :
    ∃ s, marching.Moment [.tick, .run (some 1), .tick] s [.whole 5, .whole 6, .whole 8] ∧
      s.machine.timers.ticks = 180 ∧ s.machine.timers.pendingUnits = 0 := by
  have start : marching.Marches 0 :=
    ⟨⟨rfl, rfl, Machine.fetched_load _ Memory.initial 0x12 0x00 [] rfl rfl, rfl⟩, rfl, rfl, nofun,
      rfl, rfl, rfl⟩
  obtain ⟨s, ticked, _, first⟩ := start.tick (by decide)
  obtain ⟨takes, second⟩ := first.run (by decide)
  have made : marching.After [.tick] s [.whole 5] := by
    have one := After.start (r := marching) |>.tick
    rw [ticked] at one
    exact one
  have next : (s.run (some 1)).1.nextReading? = some (.whole 8) := by
    rw [nextReading?, second.read]
    rfl
  have all := (made.run takes).tick
  rw [next] at all
  have whole : WholeSeconds [.whole 5, .whole 6, .whole 8] [5, 6, 8] := by
    refine ⟨?_, .inl (by simp), by decide, by decide⟩
    exact .cons rfl (.cons rfl (.cons rfl .nil))
  obtain ⟨ticks, pending⟩ := wall_time_counted marching _ _ _ _ rfl rfl nofun (.between all) whole
  refine ⟨_, .between all, ?_, pending⟩
  have seconds : lapse [5, 6, 8] = 3 := by decide
  have none : marching.machine.timers.ticks = 0 := rfl
  rw [seconds, none] at ticks
  omega

end Runner
end Chip8
