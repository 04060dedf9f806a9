import Chip8.Proofs.Machine.Changes
import Chip8.Proofs.Timers.Elapsed

/-!
# What the timers have come down to

A timer is given a value by an instruction, by the host, or, when the machine is reset, to be zero.
From then on it has what is left of that value after the ticks that have passed since, whatever the
machine does in the meantime.
-/
namespace Chip8

/-- The two timers. -/
inductive Timer where
  | delay
  | sound
  deriving DecidableEq, Repr

/-- The instruction that sets a timer. -/
def Timer.setter : Timer → Operation
  | delay => .setDelay
  | sound => .setSound

/-- A value that a timer was given, and the ticks that had been counted by then. -/
structure Setting where
  value : UInt8 := 0
  ticks : Nat := 0
  deriving DecidableEq, Repr

namespace Timers

/-- The value of a timer. -/
def read (t : Timers) : Timer → UInt8
  | .delay => t.delay
  | .sound => t.sound

/-- Whether a timer has what is left of a value that it was given. -/
structure Follows (t : Timers) (k : Timer) (s : Setting) : Prop where
  since : s.ticks ≤ t.ticks
  left : (t.read k).toNat = s.value.toNat - (t.ticks - s.ticks)

theorem follows_self (t : Timers) (k : Timer) : t.Follows k ⟨t.read k, t.ticks⟩ := by
  constructor <;> simp

section Update
variable {t u : Timers} {k : Timer} {s : Setting} {r : Reading} {ticks : Nat}

/-- An update takes its ticks off each timer. -/
theorem toNat_read_update (accepted : t.update r = .ok (u, ticks)) :
    u.ticks = t.ticks + ticks ∧ (u.read k).toNat = (t.read k).toNat - ticks := by
  rw [(t.update_success u r ticks accepted).2]
  refine ⟨rfl, ?_⟩
  cases k <;> exact toNat_countDown _ ticks

theorem Follows.update (follows : t.Follows k s) (accepted : t.update r = .ok (u, ticks)) :
    u.Follows k s := by
  obtain ⟨since, left⟩ := follows
  obtain ⟨counted, taken⟩ := toNat_read_update (k := k) accepted
  constructor <;> omega

/-- A timer depends on its value and the ticks alone. -/
theorem Follows.congr (follows : t.Follows k s) (ticks : u.ticks = t.ticks)
    (read : u.read k = t.read k) : u.Follows k s :=
  ⟨ticks ▸ follows.since, by rw [read, ticks, follows.left]⟩

/-- A timer that follows a setting is not above it. -/
theorem Follows.le (follows : t.Follows k s) : t.read k ≤ s.value := by
  rw [UInt8.le_iff_toNat_le, follows.left]
  exact Nat.sub_le _ _

end Update

end Timers

namespace Machine

/-- The value that the next instruction gives a timer, if it gives one. -/
def nextGiven? (m : Machine) (k : Timer) : Option UInt8 :=
  m.due?.bind fun w => if w.operation = k.setter then some (m.registers.get w.x) else none

/-- The value that an action gives a timer, if it gives one.  A step that is refused gives none. -/
def given? (m : Machine) (k : Timer) : HostAction → Option UInt8
  | .step elapsed => (m.step elapsed).toOption.bind fun _ => m.nextGiven? k
  | .setDelay value => if k = .delay then some (UInt8.ofInt value) else none
  | .setSound value => if k = .sound then some (UInt8.ofInt value) else none
  | .reset => some 0
  | _ => none

/-- The setting of a timer that an action makes, if it makes one. -/
def setting? (m : Machine) (k : Timer) (a : HostAction) : Option Setting :=
  (m.given? k a).map (⟨·, (m.perform a).timers.ticks⟩)

/-- The settings of a timer that a session makes, in order. -/
def settings (m : Machine) (k : Timer) : List HostAction → List Setting
  | [] => []
  | a :: rest => (m.setting? k a).toList ++ (m.perform a).settings k rest

/-- The latest setting of a timer in a session, zero before the first one. -/
def lastSetting (m : Machine) (k : Timer) (actions : List HostAction) : Setting :=
  (m.settings k actions).getLast?.getD {}

section Step
variable {m after : Machine} {timers : Timers} {o : Outcome} {w : Opcode} {k : Timer}

/-- An instruction that sets a timer is not kept from it. -/
theorem carries_setter (due : m.due? = some w) (op : w.operation = k.setter) : m.Carries w := by
  refine carries_of_operation due ?_
  rw [op]
  cases k <;> decide

/-- The timer that is set has the value of the register, and none of the step's time off it. -/
theorem StepResult.set (result : StepResult m timers after o) (due : m.due? = some w)
    (op : w.operation = k.setter) : after.timers.read k = m.registers.get w.x := by
  obtain ⟨_, run⟩ := result_carries (carries_setter due op) result
  have set := execute_timers run
  rw [op, record_eq] at set
  cases k <;>
  · rw [set]
    rfl

/-- A timer that is not set has the time of the step off it. -/
theorem StepResult.unset (result : StepResult m timers after o)
    (unset : ∀ w, m.due? = some w → w.operation ≠ k.setter) :
    after.timers.read k = timers.read k := by
  have omits : m.Omits [k.setter] := by
    intro w carries
    rw [List.mem_singleton]
    exact unset w carries.due
  cases k with
  | delay => exact result.changes.delay omits
  | sound => exact result.changes.sound omits

/-- The instruction that reads the delay timer puts what is left after the step's time into its
register. -/
theorem StepResult.readDelay (result : StepResult m timers after o) (due : m.due? = some w)
    (op : w.operation = .readDelay) : after.registers.get w.x = after.timers.read .delay := by
  have carries : m.Carries w := carries_of_operation due (by rw [op]; decide)
  obtain ⟨_, run⟩ := result_carries carries result
  have kept := (execute_footprint run).timers (by rw [op]; decide)
  unfold execute at run
  rw [EStateM.run_bind, EStateM.run_get, op, record_eq] at run
  injection run with _ left
  rw [record_eq] at kept
  rw [Timers.read, kept, ← left]
  exact (Registers.get_set _ _ _ _).trans (if_pos rfl)

end Step

section Session
variable {m : Machine} {k : Timer} {s : Setting}

theorem nextGiven?_unset (unset : ∀ w, m.due? = some w → w.operation ≠ k.setter) :
    m.nextGiven? k = none := by
  unfold nextGiven?
  cases due : m.due? with
  | none => rfl
  | some w => exact if_neg (unset w due)

/-- A step leaves a timer with what is left of the setting that it makes, or of the one before. -/
theorem step_follows {elapsed : Reading} {t : Transition} (follows : m.timers.Follows k s)
    (stepped : m.step elapsed = .ok t) :
    t.machine.timers.Follows k
      (((m.nextGiven? k).map (⟨·, t.machine.timers.ticks⟩)).getD s) := by
  obtain ⟨timers, _, accepted, result⟩ := m.step_result elapsed t stepped
  by_cases set : ∃ w, m.due? = some w ∧ w.operation = k.setter
  · obtain ⟨w, due, op⟩ := set
    have given : m.nextGiven? k = some (t.machine.timers.read k) := by
      rw [result.set due op, nextGiven?, due, Option.bind_some, if_pos op]
    rw [given]
    exact Timers.follows_self _ k
  · have unset : ∀ w, m.due? = some w → w.operation ≠ k.setter := fun w due op => set ⟨w, due, op⟩
    rw [nextGiven?_unset unset]
    exact (follows.update accepted).congr result.changes.clock.2 (result.unset unset)

/-- So does every action. -/
theorem perform_follows (m : Machine) (a : HostAction) (follows : m.timers.Follows k s) :
    (m.perform a).timers.Follows k ((m.setting? k a).getD s) := by
  cases a with
  | step elapsed =>
    cases stepped : m.step elapsed with
    | error e =>
      simp only [setting?, given?, perform, stepped]
      exact follows
    | ok t =>
      simp only [setting?, given?, perform, stepped]
      exact step_follows follows stepped
  | setDelay value =>
    cases k with
    | delay => exact Timers.follows_self _ _
    | sound => exact follows.congr rfl rfl
  | setSound value =>
    cases k with
    | delay => exact follows.congr rfl rfl
    | sound => exact Timers.follows_self _ _
  | reset => cases k <;> exact Timers.follows_self {} _
  | load image =>
    simp only [perform, load]
    cases m.memory.load image <;> exact follows
  | keypad _ | setRegister _ _ | write _ _ =>
    simp only [perform]
    split <;> exact follows
  | addBreakpoint address =>
    obtain ⟨breakpoints, added⟩ := m.addBreakpoint_eq address
    rw [perform, added]
    exact follows
  | _ => exact follows

/-- A session leaves a timer with what is left of the latest setting in it. -/
theorem session_follows (m : Machine) (actions : List HostAction) (follows : m.timers.Follows k s) :
    (m.session actions).timers.Follows k ((m.settings k actions).getLast?.getD s) := by
  induction actions generalizing m s with
  | nil => exact follows
  | cons a rest ih =>
    have later := ih (m.perform a) (m.perform_follows a follows)
    have last : ((m.setting? k a).toList ++ (m.perform a).settings k rest).getLast?.getD s =
        ((m.perform a).settings k rest).getLast?.getD ((m.setting? k a).getD s) := by
      rw [List.getLast?_append]
      cases ((m.perform a).settings k rest).getLast? <;> cases m.setting? k a <;> rfl
    rw [session_cons, settings, last]
    exact later

/-- A timer of a machine has what is left of the value that it was given last, after the ticks since.
That is what an instruction reads; an instruction that sets a timer gives it the whole value, also
when its step has time; and until it is set again a timer never rises. -/
theorem timer_history (input : Input) (random : RandomSource) (actions : List HostAction)
    (k : Timer) :
    let m := (fresh input random).session actions
    let s := (fresh input random).lastSetting k actions
    (s.ticks ≤ m.timers.ticks ∧
      (m.timers.read k).toNat = s.value.toNat - (m.timers.ticks - s.ticks)) ∧
    (∀ elapsed t w, m.step elapsed = .ok t → m.due? = some w →
      (w.operation = k.setter → t.machine.timers.read k = m.registers.get w.x) ∧
      (k = .delay → w.operation = .readDelay →
        (t.machine.registers.get w.x).toNat =
          s.value.toNat - (t.machine.timers.ticks - s.ticks))) ∧
    ∀ later, m.settings k later = [] → (m.session later).timers.read k ≤ m.timers.read k := by
  intro m s
  have start : ({} : Timers).Follows k {} := by cases k <;> exact Timers.follows_self {} _
  have follows : m.timers.Follows k s := session_follows (fresh input random) actions start
  refine ⟨⟨follows.since, follows.left⟩, ?_, ?_⟩
  · intro elapsed t w stepped due
    obtain ⟨timers, _, accepted, result⟩ := m.step_result elapsed t stepped
    refine ⟨result.set due, ?_⟩
    rintro rfl op
    have unset : ∀ v, m.due? = some v → v.operation ≠ Timer.delay.setter := by
      intro v again
      rw [due] at again
      rw [← Option.some.inj again, op]
      decide
    have after := (follows.update accepted).congr result.changes.clock.2 (result.unset unset)
    rw [result.readDelay due op]
    exact after.left
  · intro later none
    have after := session_follows m later (Timers.follows_self m.timers k)
    rw [none] at after
    exact after.le

end Session

/-! A delay of five ticks that is read one tick later. -/

/-- What a host does before: the low eight bits of 261 are five. -/
def delayed : List HostAction := [.load [0xF1, 0x07], .setDelay 261]

theorem timer_history_read :
    ∃ t, ((fresh (.keypad {}) (.repeating [])).session delayed).step (.number (.whole 17)) = .ok t ∧
      t.machine.timers.ticks = 1 ∧ (t.machine.registers.get 1).toNat = 4 := by
  let m := (fresh (.keypad {}) (.repeating [])).session delayed
  have fetched : m.fetched? = some (.ofBytes 0xF1 0x07) :=
    fetched_load _ Memory.initial 0xF1 0x07 [] rfl rfl
  have accepted := m.timers.update_whole (.number (.whole 17)) 0 17 (Nat.zero_mul _).symm
    (by decide) rfl (by decide) (by unfold Reading.TooLarge; decide +kernel)
  obtain ⟨t, stepped, result⟩ := m.step_success _ _ _ accepted
  obtain ⟨_, history, _⟩ := timer_history (.keypad {}) (.repeating []) delayed .delay
  obtain ⟨_, read⟩ := history _ t _ stepped ((due_iff m _).mpr ⟨rfl, rfl, fetched⟩)
  have ticks : t.machine.timers.ticks = 1 := result.changes.clock.2
  have value := read rfl (by decide)
  rw [ticks] at value
  exact ⟨t, stepped, ticks, value⟩

end Machine
end Chip8
