import Chip8.Proofs.Machine.Footprint
import Chip8.Proofs.Machine.Session
import Chip8.Proofs.Timers.Elapsed

/-!
# Elapsed time in a session

Every step gives the timers its time exactly once, also when it ends the program, comes to a fault,
reports one again, or waits for a key.  So a session in which no instruction sets a timer counts the
time of its steps as the timers alone do, however it is split.
-/
namespace Chip8

/-- The reading that an action gives the timers, if it is a step. -/
def HostAction.reading? : HostAction → Option Reading
  | .step elapsed => some elapsed
  | _ => none

namespace Machine

/-- Whether no step of a session carries out an instruction that sets a timer. -/
def SetsNoTimer (m : Machine) (actions : List HostAction) : Prop :=
  ∀ before r rest w, actions = before ++ .step r :: rest →
    (m.session before).due? = some w → w.operation ∉ [.setDelay, .setSound]

/-- A step that does not set a timer leaves the timers with the time that it was given. -/
theorem StepResult.timers {m after : Machine} {timers : Timers} {o : Outcome}
    (result : StepResult m timers after o)
    (unset : ∀ w, m.due? = some w → w.operation ∉ [.setDelay, .setSound]) :
    after.timers = timers := by
  cases result with
  | stopped | idle | resumed | ended => rfl
  | unfetched =>
    rw [failed, record_eq]
    rfl
  | refused =>
    rw [failed, record_eq, record_eq]
    rfl
  | carried w after fault waiting fetched _ _ run _ =>
    have due : m.due? = some w := (m.due_iff w).mpr ⟨fault, waiting, fetched⟩
    rw [(execute_footprint run).timers (unset w due), record_eq]
    rfl

/-- A step is refused exactly when the timers refuse its time. -/
theorem step_refused_iff (m : Machine) (r : Reading) (e : TimerError) :
    m.step r = .error e ↔ m.timers.update r = .error e := by
  unfold step
  cases m.timers.update r <;> simp

/-- A step is carried out exactly when the timers do not refuse its time as too large, if that is
the one reason that they have. -/
theorem accepted_iff (m : Machine) (r : Reading)
    (refused : ∀ e, (m.timers.update r).map Prod.snd = .error e ↔ r.TooLarge ∧ e = .tooLarge) :
    (∃ u, m.step r = .ok u) ↔ ¬ r.TooLarge := by
  have answer := refused .tooLarge
  constructor
  · rintro ⟨u, stepped⟩ large
    cases given : m.timers.update r with
    | error e =>
      rw [(m.step_refused_iff r e).mpr given] at stepped
      cases stepped
    | ok _ =>
      rw [given] at answer
      cases answer.mpr ⟨large, rfl⟩
  · intro small
    cases stepped : m.step r with
    | ok u => exact ⟨u, rfl⟩
    | error e =>
      have given := (m.step_refused_iff r e).mp stepped
      refine absurd ((refused e).mp ?_).1 small
      rw [given]
      rfl

theorem SetsNoTimer.earlier {m : Machine} {first second : List HostAction}
    (unset : m.SetsNoTimer (first ++ second)) : m.SetsNoTimer first := by
  intro before r rest w split
  refine unset before r (rest ++ second) w ?_
  rw [split, List.append_assoc]
  rfl

/-- What an action of a session that sets no timer does to the timers. -/
theorem perform_timers (m : Machine) (a : HostAction) (continues : a.Continues)
    (unset : ∀ r w, a = .step r → m.due? = some w → w.operation ∉ [.setDelay, .setSound]) :
    (m.perform a).timers = a.reading?.toList.foldl Timers.given m.timers := by
  cases a with
  | step r =>
    have given : (HostAction.step r).reading?.toList.foldl Timers.given m.timers =
        m.timers.given r := rfl
    rw [given, perform, Timers.given]
    cases stepped : m.step r with
    | error e => rw [(step_refused_iff m r e).mp stepped]
    | ok t =>
      obtain ⟨timers, _, accepted, result⟩ := m.step_result r t stepped
      rw [accepted]
      exact result.timers fun w => unset r w rfl
  | keypad a =>
    simp only [perform]
    split <;> rfl
  | _ => exact continues.elim

/-- A session that sets no timer gives the timers the readings of its steps, one after the other. -/
theorem session_timers (m : Machine) (actions : List HostAction)
    (continues : ∀ a ∈ actions, a.Continues) (unset : m.SetsNoTimer actions) :
    (m.session actions).timers =
      (actions.filterMap HostAction.reading?).foldl Timers.given m.timers := by
  induction actions generalizing m with
  | nil => rfl
  | cons a rest ih =>
    have first := m.perform_timers a (continues a List.mem_cons_self) fun r w step =>
      unset [] r rest w (by rw [step]; rfl)
    have later : (m.perform a).SetsNoTimer rest := fun before r after w split =>
      unset (a :: before) r after w (congrArg (a :: ·) split)
    rw [session_cons, ih (m.perform a) (fun b member => continues b (List.mem_cons_of_mem a member))
      later, first, ← List.foldl_append]
    congr 1
    cases given : a.reading? <;> simp [given]

/-- Such a session counts the milliseconds of its steps. -/
theorem session_elapsed (m : Machine) (actions : List HostAction)
    (continues : ∀ a ∈ actions, a.Continues) (unset : m.SetsNoTimer actions)
    {delay sound : UInt8} {n : Nat} (elapsed : m.timers.Elapsed delay sound n)
    (exact : ∀ r ∈ actions.filterMap HostAction.reading?, r.Exact) :
    (m.session actions).timers.Elapsed delay sound
      (n + Reading.elapsed (actions.filterMap HostAction.reading?)) := by
  rw [session_timers m actions continues unset]
  exact (elapsed.givenAll _ exact).1

/-- Updates that count as few whole milliseconds count the ticks of their sum, whatever their number
and order, and carry the rest; those that are refused count nothing.  So do the steps of a session
that sets no timer. -/
theorem elapsed_exact (delay sound : UInt8) (readings : List Reading)
    (exact : ∀ r ∈ readings, r.Exact) :
    let start : Timers := { delay, sound }
    let total := Reading.elapsed readings
    let t := readings.foldl Timers.given start
    (((start.answers readings).map Timers.counted).sum = 60 * total / 1000 ∧
      t.ticks = 60 * total / 1000 ∧
      t.pendingUnits = 60 * total % 1000 * Binary64.unitsPerOne ∧
      t.delay.toNat = delay.toNat - t.ticks ∧ t.sound.toNat = sound.toNat - t.ticks) ∧
    List.Forall₂ (fun r answer => ∀ e, answer = .error e ↔ r.TooLarge ∧ e = .tooLarge) readings
      (start.answers readings) ∧
    (∀ others, (∀ r ∈ others, r.Exact) → Reading.elapsed others = total →
      others.foldl Timers.given start = t) ∧
    ∀ (m : Machine) (actions : List HostAction), m.timers = start →
      (∀ a ∈ actions, a.Continues) → actions.filterMap HostAction.reading? = readings →
      m.SetsNoTimer actions →
      (m.session actions).timers = t ∧
      ∀ before r rest, actions = before ++ .step r :: rest →
        ((∃ u, (m.session before).step r = .ok u) ↔ ¬ r.TooLarge) := by
  intro start total t
  obtain ⟨after, ticks, refused⟩ := (Timers.elapsed_set delay sound).givenAll readings exact
  rw [Nat.zero_add] at after ticks
  refine ⟨⟨by simpa using ticks, after.ticks, after.pending, ?_, ?_⟩, refused, ?_, ?_⟩
  · rw [after.ticks]
    exact after.delay
  · rw [after.ticks]
    exact after.sound
  · intro others exact_others same
    have other := ((Timers.elapsed_set delay sound).givenAll others exact_others).1
    rw [Nat.zero_add, same] at other
    exact other.unique after
  · rintro m actions set continues rfl unset
    refine ⟨by rw [session_timers m actions continues unset, set], ?_⟩
    rintro before r rest rfl
    rw [List.filterMap_append] at exact
    have counted := m.session_elapsed before
      (fun a member => continues a (List.mem_append_left _ member)) unset.earlier
      (by rw [set]; exact Timers.elapsed_set delay sound)
      fun r member => exact r (List.mem_append_left _ member)
    have refused := (counted.given r (exact r (List.mem_append_right _ List.mem_cons_self))).2.2
    exact accepted_iff _ r refused

/-! A loop whose timers run, and a host whose clock runs backwards, stops and fails on the way. -/

theorem Loops.setsNoTimer {m : Machine} (loops : m.Loops) (actions : List HostAction)
    (continues : ∀ a ∈ actions, a.Continues) : m.SetsNoTimer actions := by
  rintro before r rest w rfl due
  have later := loops.session before fun a member => continues a (List.mem_append_left _ member)
  rw [due?, if_pos ⟨later.fault, later.waiting⟩, later.fetched] at due
  have op : (Opcode.ofBytes 0x12 0x00).operation = .jump := by decide
  rw [← Option.some.inj due, op]
  decide

/-- The clock of such a host. -/
def unsteadyReadings : List Reading :=
  [.number (.whole 16), .number (.whole (-5)), .number (.real .undefined),
    .number (.real (.infinite true)), .number (.whole (-10 ^ 400)), .number (.whole 17)]

theorem unsteadyReadings_exact : ∀ r ∈ unsteadyReadings, r.Exact := by
  have sixteen : Reading.Exact (.number (.whole 16)) := ⟨16, rfl, by decide⟩
  have seventeen : Reading.Exact (.number (.whole 17)) := ⟨17, rfl, by decide⟩
  have before : Reading.Exact (.number (.whole (-5))) := ⟨0, rfl, by decide⟩
  have long : Reading.Exact (.number (.whole (-10 ^ 400))) := ⟨0, by decide +kernel, by decide⟩
  have never : Reading.Exact (.number (.real .undefined)) := ⟨0, rfl, by decide⟩
  have infinite : Reading.Exact (.number (.real (.infinite true))) := ⟨0, rfl, by decide⟩
  simp only [unsteadyReadings, List.mem_cons, List.not_mem_nil, or_false]
  rintro r (rfl | rfl | rfl | rfl | rfl | rfl) <;> assumption

theorem elapsed_exact_loop :
    let m := (fresh (.keypad {}) (.repeating [])).session
      [.load [0x12, 0x00], .setDelay 5, .setSound 1]
    let after := m.session (unsteadyReadings.map HostAction.step)
    after.timers.ticks = 1 ∧ after.timers.pendingUnits = 980 * Binary64.unitsPerOne ∧
      after.timers.delay.toNat = 4 ∧ after.timers.sound.toNat = 0 := by
  intro m after
  have loops : m.Loops := ⟨rfl, rfl, fetched_load _ Memory.initial 0x12 0x00 [] rfl rfl, rfl⟩
  have continues : ∀ a ∈ unsteadyReadings.map HostAction.step, a.Continues := by
    simp [HostAction.Continues]
  obtain ⟨⟨_, ticks, pending, delay, sound⟩, _, _, sessions⟩ :=
    elapsed_exact 5 1 unsteadyReadings unsteadyReadings_exact
  obtain ⟨timers, _⟩ := sessions m _ rfl continues rfl (loops.setsNoTimer _ continues)
  have total : Reading.elapsed unsteadyReadings = 33 := by decide +kernel
  rw [total] at ticks pending
  rw [ticks] at delay sound
  rw [timers]
  exact ⟨ticks, pending, delay, sound⟩

/-- A negative number of milliseconds can be refused, not counted as none. -/
theorem negative_refused :
    (Reading.number (.whole (-10 ^ 400))).milliseconds? = some 0 ∧
    ({} : Timers).update (.number (.whole (-10 ^ 400))) = .error .tooLarge := by
  refine ⟨by decide +kernel, Timers.update_tooLarge _ _ ?_⟩
  unfold Reading.TooLarge
  decide +kernel

end Machine
end Chip8
