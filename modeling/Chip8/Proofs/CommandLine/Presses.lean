import Chip8.Proofs.CommandLine.Prepared
import Chip8.Proofs.CommandLine.Values
import Chip8.Proofs.Machine.Bounded
import Chip8.Proofs.Pacing.FirstStop

/-!
# Scheduled key presses

A key that is pressed on the command line goes down with its press and up with the first end of a
press of the same key after that, whichever press it is.  So a key is held through each of its
presses unless one of them ends within another.
-/
namespace Chip8.CommandLine

/-- The step at which a press ends. -/
def ScheduledPress.ends (p : ScheduledPress) : Nat := p.step + p.hold

/-- Whether a key is to be held at a step: within a press of it. -/
def Held (presses : List ScheduledPress) (key : Fin 16) (s : Nat) : Prop :=
  ∃ p ∈ presses, p.key = key ∧ p.step ≤ s ∧ s < p.ends

/-- Whether a press of a key has begun and since then none has ended. -/
def Down (presses : List ScheduledPress) (key : Fin 16) (s : Nat) : Prop :=
  ∃ p ∈ presses, p.key = key ∧ p.step ≤ s ∧
    ∀ q ∈ presses, q.key = key → q.ends ≤ p.step ∨ s < q.ends

/-- Whether no press of a key ends within another one of it. -/
def Apart (presses : List ScheduledPress) (key : Fin 16) : Prop :=
  ∀ p ∈ presses, ∀ q ∈ presses, p.key = key → q.key = key → ¬ (p.step < q.ends ∧ q.ends < p.ends)

instance (presses : List ScheduledPress) (key : Fin 16) (s : Nat) :
    Decidable (Held presses key s) :=
  inferInstanceAs (Decidable (∃ p ∈ presses, p.key = key ∧ p.step ≤ s ∧ s < p.ends))

instance (presses : List ScheduledPress) (key : Fin 16) (s : Nat) :
    Decidable (Down presses key s) :=
  inferInstanceAs (Decidable (∃ p ∈ presses, p.key = key ∧ p.step ≤ s ∧
    ∀ q ∈ presses, q.key = key → q.ends ≤ p.step ∨ s < q.ends))

instance (presses : List ScheduledPress) (key : Fin 16) : Decidable (Apart presses key) :=
  inferInstanceAs (Decidable (∀ p ∈ presses, ∀ q ∈ presses, p.key = key → q.key = key →
    ¬ (p.step < q.ends ∧ q.ends < p.ends)))

section Schedule
variable {presses : List ScheduledPress} {key : Fin 16} {s : Nat}

theorem down_zero_iff : Down presses key 0 ↔ ∃ p ∈ presses, p.key = key ∧ p.step = 0 := by
  constructor
  · rintro ⟨p, member, same, begun, _⟩
    exact ⟨p, member, same, Nat.le_zero.mp begun⟩
  · rintro ⟨p, member, same, first⟩
    exact ⟨p, member, same, by omega, fun q _ _ => by omega⟩

/-- A frame at the next step, or at the same one again, lets the keys go whose presses end there and
then puts those down whose presses begin there. -/
theorem down_frame_iff (t : Nat) (next : t = s + 1 ∨ t = s) :
    Down presses key t ↔
      (∃ p ∈ presses, p.key = key ∧ p.step = t) ∨
      (Down presses key s ∧ ∀ p ∈ presses, p.key = key → p.ends ≠ t) := by
  constructor
  · rintro ⟨p, member, same, begun, lasts⟩
    by_cases now : p.step = t
    · exact .inl ⟨p, member, same, now⟩
    · refine .inr ⟨⟨p, member, same, by omega, fun q other also => ?_⟩, fun q other also => ?_⟩
      · have last := lasts q other also
        omega
      · have last := lasts q other also
        omega
  · rintro (⟨p, member, same, now⟩ | ⟨⟨p, member, same, begun, lasts⟩, none⟩)
    · exact ⟨p, member, same, by omega, fun q _ _ => by omega⟩
    · refine ⟨p, member, same, by omega, fun q other also => ?_⟩
      have last := lasts q other also
      have differs := none q other also
      omega

/-- A key that is down is held, because its press ends after it begins. -/
theorem Down.held (lasting : ∀ p ∈ presses, 1 ≤ p.hold) (down : Down presses key s) :
    Held presses key s := by
  obtain ⟨p, member, same, begun, lasts⟩ := down
  have long := lasting p member
  have last := lasts p member same
  unfold ScheduledPress.ends at last
  exact ⟨p, member, same, begun, by unfold ScheduledPress.ends; omega⟩

/-- A key is down within its presses if none of them ends within another. -/
theorem Held.down (apart : Apart presses key) (held : Held presses key s) : Down presses key s := by
  obtain ⟨p, member, same, begun, lasting⟩ := held
  refine ⟨p, member, same, begun, fun q other also => ?_⟩
  have between := apart p member q other same also
  omega

end Schedule

/-! What a host does with a schedule. -/

/-- A press that is accepted lasts for a step at least. -/
theorem scheduledPress_lasts (text : String) (p : ScheduledPress)
    (accepted : scheduledPress text = .ok p) : 1 ≤ p.hold := by
  obtain ⟨_, lasts⟩ := (scheduledPress_eq_ok_iff text p).mp accepted
  exact lasts

theorem mapM_lasts (texts : List String) (presses : List ScheduledPress)
    (accepted : texts.mapM scheduledPress = .ok presses) : ∀ p ∈ presses, 1 ≤ p.hold := by
  induction texts generalizing presses with
  | nil =>
    cases accepted
    nofun
  | cons text rest ih =>
    rw [List.mapM_cons] at accepted
    cases first : scheduledPress text with
    | error e =>
      rw [first] at accepted
      cases accepted
    | ok p =>
      cases others : rest.mapM scheduledPress with
      | error e =>
        rw [first, others] at accepted
        cases accepted
      | ok more =>
        rw [first, others] at accepted
        cases accepted
        intro q member
        rcases List.mem_cons.mp member with rfl | later
        · exact scheduledPress_lasts text q first
        · exact ih more others q later

theorem mem_keys (presses : List ScheduledPress) (P : ScheduledPress → Prop) [DecidablePred P]
    (key : Fin 16) :
    key ∈ (presses.filter fun p => P p).map ScheduledPress.key ↔
      ∃ p ∈ presses, p.key = key ∧ P p := by
  simp only [List.mem_map, List.mem_filter, decide_eq_true_eq, and_assoc]
  exact exists_congr fun p => and_congr_right fun _ => and_comm

/-- What a frame makes of the keys. -/
theorem isDown_actionsAt (presses : List ScheduledPress) (s : Nat) (k : Keypad) (key : Fin 16) :
    ((actionsAt presses s).foldl KeyAction.apply k).isDown key ↔
      (∃ p ∈ presses, p.key = key ∧ p.step = s) ∨
      (k.isDown key ∧ ∀ p ∈ presses, p.key = key → p.ends ≠ s) := by
  have actions : actionsAt presses s =
      ((presses.filter fun p => p.ends = s).map ScheduledPress.key).map .release ++
      ((presses.filter fun p => p.step = s).map ScheduledPress.key).map .press := by
    rw [List.map_map, List.map_map]
    rfl
  rw [actions, List.foldl_append, KeyAction.isDown_presses, KeyAction.isDown_releases,
    mem_keys presses (·.step = s), mem_keys presses (·.ends = s),
    and_comm (a := k.isDown key = true)]
  simp only [not_exists, not_and, ne_eq]

/-- Whether the keys that are down are those of the schedule. -/
def Scheduled (presses : List ScheduledPress) (m : Machine) : Prop :=
  ∃ k, m.input = .keypad k ∧ ∀ key, k.isDown key ↔ Down presses key m.steps

/-- A new machine has the keys of step zero down when the run begins. -/
theorem scheduled_initial (presses : List ScheduledPress) (m : Machine)
    (input : m.input = .keypad {}) (steps : m.steps = 0) :
    Scheduled presses (KeyAction.performAll m (initialActions presses)).1 := by
  rw [KeyAction.performAll_keypad m {} _ input]
  refine ⟨_, rfl, fun key => ?_⟩
  have downs : initialActions presses =
      ((presses.filter fun p => p.step = 0).map ScheduledPress.key).map .press := by
    rw [initialActions, List.map_map]
    rfl
  have up : ({} : Keypad).isDown key = false := by
    revert key
    decide
  simp only [downs, steps, KeyAction.isDown_presses, mem_keys presses (·.step = 0), down_zero_iff,
    up, Bool.false_eq_true, or_false]

/-- A step and the frame after it keep the keys to the schedule. -/
theorem Scheduled.frame {presses : List ScheduledPress} {m after : Machine} {timers : Timers}
    {o : Outcome} (scheduled : Scheduled presses m) (result : Machine.StepResult m timers after o)
    (i : Nat) : Scheduled presses (Runner.viewed (some (.script (actionsAt presses))) i after) := by
  obtain ⟨k, input, down⟩ := scheduled
  obtain ⟨left, same, stepped⟩ := Machine.result_keypad k input result
  have next : after.steps = m.steps + 1 ∨ after.steps = m.steps := by
    cases fault : m.fault with
    | none => exact .inl (result.counted fault).1
    | some latched => exact .inr (result.latched latched fault).2.1
  have seen : Runner.viewed (some (.script (actionsAt presses))) i after =
      (KeyAction.performAll after (actionsAt presses after.steps)).1 := rfl
  rw [seen, KeyAction.performAll_keypad after left _ same]
  refine ⟨_, rfl, fun key => ?_⟩
  rw [isDown_actionsAt, stepped.isDown, down, ← down_frame_iff _ next]

/-- So do the frames of a run that begins with the keys of its schedule. -/
theorem Scheduled.alternates {presses : List ScheduledPress} {r : Runner} {n : Nat} {m : Machine}
    {o : Outcome} (host : r.onFrame = some (.script (actionsAt presses)))
    (start : Scheduled presses r.machine) (frames : r.Alternates n m o) : Scheduled presses m := by
  induction frames with
  | start => exact start
  | next n m o elapsed t _ stepped ih =>
    obtain ⟨_, _, _, result⟩ := m.step_result elapsed t stepped
    rw [host]
    exact ih.frame result _

theorem Ready.scheduled {o : RunOptions} {files : FileTree} {clock : Clock} {stamp : String}
    {image : List UInt8} {m : Machine} {presses : List ScheduledPress} {p : Prepared}
    (ready : Ready o files clock stamp image m presses p) :
    p.runner.onFrame = some (.script (actionsAt presses)) ∧ Scheduled presses p.runner.machine ∧
      p.runner.machine.fault = none ∧ p.runner.machine.steps = 0 := by
  obtain ⟨memory, breakpoints, fresh⟩ := ready.machine
  have input : m.input = .keypad {} := by
    rw [fresh]
    rfl
  have steps : m.steps = 0 := by
    rw [fresh]
    rfl
  have fault : m.fault = none := by
    rw [fresh]
    rfl
  obtain ⟨events, runner⟩ := startedRunner_eq m clock (.real o.rate) presses
  rw [ready.runner, runner]
  refine ⟨rfl, scheduled_initial presses m input steps, ?_⟩
  simp only [KeyAction.performAll_keypad m {} _ input]
  exact ⟨fault, steps⟩

/-- In a run with presses from the command line the keys go down with their presses and up with the
first end of a press of the same key: before the first step, and at every frame after a step.  No
key is down outside its presses, and one is down all through them if none of them ends within
another. -/
theorem keys_follow_presses (o : RunOptions) (files : FileTree) (clock : Clock) (stamp : String)
    (p : Prepared) (presses : List ScheduledPress) (prepared : o.prepare files clock stamp = .ok p)
    (accepted : o.presses.mapM scheduledPress = .ok presses) :
    (∀ n m outcome, p.runner.Alternates n m outcome → ∃ k, m.input = .keypad k ∧ ∀ key,
      (k.isDown key ↔ Down presses key m.steps) ∧
      (k.isDown key → Held presses key m.steps) ∧
      (Apart presses key → (k.isDown key ↔ Held presses key m.steps))) ∧
    ∀ x, (p.runner.run p.limit).2 = some (.ok x) →
      p.runner.Alternates x.steps (p.runner.run p.limit).1.machine x.outcome ∧
      (p.runner.run p.limit).1.machine.steps = x.steps := by
  obtain ⟨image, start, given, ready⟩ := (prepare_ok_iff o files clock stamp p).mp prepared
  obtain rfl : presses = given := by
    have same := ready.accepted
    rw [accepted] at same
    exact Except.ok.inj same
  obtain ⟨host, scheduled, fault, steps⟩ := ready.scheduled
  have lasting := mapM_lasts _ _ accepted
  constructor
  · intro n m outcome frames
    obtain ⟨k, input, down⟩ := scheduled.alternates host frames
    refine ⟨k, input, fun key => ?_⟩
    have within : k.isDown key → Held presses key m.steps :=
      fun is => ((down key).mp is).held lasting
    exact ⟨down key, within, fun apart => ⟨within, fun held => (down key).mpr (held.down apart)⟩⟩
  · intro x ended
    have proper : p.runner.machine.ProperFault := by
      intro latched stopped
      rw [fault] at stopped
      cases stopped
    have stopped := Runner.run_stopped (Runner.scripted_inputOnly host) proper x ended
    have counted := stopped.counted fault
    rw [steps, Nat.zero_add] at counted
    exact ⟨stopped.alternates, counted⟩

/-! Runs of a program that jumps to itself. -/

/-- A working directory with that program. -/
def loopFiles : FileTree := { files := [(["p"], [0x12, 0x00])] }

theorem loopFiles_read : loopFiles.read (Path.ofText "p") = .ok [0x12, 0x00] := by
  have whole : "p".splitOn "/" = ["p"] := by
    rw [String.splitOn, if_neg (by decide), String.splitOnAux, if_neg (by decide),
      if_neg (by decide), String.splitOnAux, if_pos (by decide)]
    rfl
  have path : Path.ofText "p" = ⟨"", ["p"]⟩ := by
    rw [Path.ofText, whole]
    rfl
  rw [path]
  rfl

def loopOptions (presses : List String) : RunOptions := { rom := "p", presses }

/-- Such a run is prepared, and goes on for as long as the host wants. -/
theorem loop_frames (texts : List String) (presses : List ScheduledPress)
    (accepted : texts.mapM scheduledPress = .ok presses) :
    ∃ p, (loopOptions texts).prepare loopFiles (Runner.stillClock 0) "" = .ok p ∧
      p.runner.onFrame = some (.script (actionsAt presses)) ∧ Scheduled presses p.runner.machine ∧
      ∀ n, ∃ m o, p.runner.Alternates n m o ∧ m.steps = n := by
  let m : Machine := { Machine.fresh (.keypad {}) (.seeded 0) with
    memory := Machine.freshMemory [0x12, 0x00], program := [0x12, 0x00] }
  have loaded := Machine.freshMemory_load [0x12, 0x00] (by decide)
  have loops : m.Loops :=
    ⟨rfl, rfl, Machine.fetched_load m Memory.initial 0x12 0x00 [] loaded rfl, rfl⟩
  have load := Machine.load_fresh (.keypad {}) (.seeded 0) [0x12, 0x00] (by decide)
  have ready : ∃ p, Ready (loopOptions texts) loopFiles (Runner.stillClock 0) "" [0x12, 0x00] m
      presses p :=
    ⟨⟨startedRunner m (Runner.stillClock 0) (.real .zero) presses, _, _, loopFiles⟩, rfl,
      ⟨_, rfl, rfl⟩, loopFiles_read, ⟨_, load, rfl⟩, accepted, rfl, rfl⟩
  obtain ⟨p, ready⟩ := ready
  obtain ⟨host, scheduled, _, steps⟩ := ready.scheduled
  have prepared := (prepare_ok_iff _ _ _ _ p).mpr ⟨_, m, presses, ready⟩
  obtain ⟨events, started⟩ := startedRunner_eq m (Runner.stillClock 0) (.real .zero) presses
  have machine : p.runner.machine =
      { m with input := .keypad ((initialActions presses).foldl KeyAction.apply {}) } := by
    have runner : p.runner = startedRunner m (Runner.stillClock 0) (.real .zero) presses :=
      ready.runner
    rw [runner, started]
    exact KeyAction.performAll_keypad m {} _ rfl
  refine ⟨p, prepared, host, scheduled, fun n => ?_⟩
  obtain ⟨last, o, frames, _, _, counted⟩ := Runner.loops_alternate p.runner
    (by rw [machine]; exact ⟨loops.fault, loops.waiting, loops.fetched, loops.counter⟩)
    (by rw [machine]; rfl) (Runner.scripted_inputOnly host) n
  rw [steps, Nat.zero_add] at counted
  exact ⟨last, o, frames, counted⟩

/-- Two presses of a key of which the second begins where the first ends hold it down throughout. -/
theorem keys_follow_presses_adjacent :
    ∃ p, (loopOptions ["0@0:1", "0@1:2"]).prepare loopFiles (Runner.stillClock 0) "" = .ok p ∧
      ∀ n, ∃ m o k, p.runner.Alternates n m o ∧ m.steps = n ∧ m.input = .keypad k ∧
        (k.isDown 0 ↔ n < 3) := by
  have accepted : ["0@0:1", "0@1:2"].mapM scheduledPress = .ok [⟨0, 0, 1⟩, ⟨0, 1, 2⟩] := rfl
  obtain ⟨p, prepared, _, _, frames⟩ := loop_frames _ _ accepted
  refine ⟨p, prepared, fun n => ?_⟩
  obtain ⟨m, o, reached, steps⟩ := frames n
  obtain ⟨follow, _⟩ := keys_follow_presses _ _ _ _ p _ prepared accepted
  obtain ⟨k, input, keys⟩ := follow n m o reached
  obtain ⟨_, _, held⟩ := keys 0
  refine ⟨m, o, k, reached, steps, input, ?_⟩
  rw [held (by decide), steps]
  simp only [Held, ScheduledPress.ends, List.mem_cons, List.not_mem_nil, or_false,
    exists_eq_or_imp, exists_eq_left, true_and]
  omega

/-- A press within another one of the same key lets the key go before the other one ends. -/
theorem overlapping_press_released :
    ∃ p presses m o k,
      (loopOptions ["0@0:3", "0@1:1"]).prepare loopFiles (Runner.stillClock 0) "" = .ok p ∧
      ["0@0:3", "0@1:1"].mapM scheduledPress = .ok presses ∧ p.runner.Alternates 2 m o ∧
      m.steps = 2 ∧ m.input = .keypad k ∧ Held presses 0 2 ∧ ¬ k.isDown 0 := by
  have accepted : ["0@0:3", "0@1:1"].mapM scheduledPress = .ok [⟨0, 0, 3⟩, ⟨0, 1, 1⟩] := rfl
  obtain ⟨p, prepared, host, scheduled, frames⟩ := loop_frames _ _ accepted
  obtain ⟨m, o, reached, steps⟩ := frames 2
  obtain ⟨k, input, down⟩ := scheduled.alternates host reached
  refine ⟨p, _, m, o, k, prepared, accepted, reached, steps, input, by decide, ?_⟩
  rw [down, steps]
  decide

end Chip8.CommandLine
