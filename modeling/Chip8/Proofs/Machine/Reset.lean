import Chip8.Proofs.Machine.Alike
import Chip8.Proofs.Machine.Bounded

/-!
# Resets

A machine that is reset is the machine as it is switched on, with the same layout of keys and the
last image that was loaded, whatever a host has done to it before.  Its random source, breakpoints
and trace switch stay; so it cannot be told from a new machine whose trace is switched as well and
that is given the same random values.
-/
namespace Chip8

namespace Machine

/-- Whether a machine has a keypad with a layout. -/
def LaidOut (m : Machine) (layout : Layout) : Prop :=
  ∃ k, m.input = .keypad k ∧ k.layout = layout

section Layout
variable {m after : Machine} {timers : Timers} {o : Outcome} {layout : Layout}

theorem result_laidOut (laid : m.LaidOut layout) (result : StepResult m timers after o) :
    after.LaidOut layout := by
  obtain ⟨k, input, rfl⟩ := laid
  obtain ⟨left, same, stepped⟩ := result_keypad k input result
  exact ⟨left, same, stepped.layout⟩

/-- Nothing that a host does to a machine changes the layout of its keypad. -/
theorem perform_laidOut (m : Machine) (a : HostAction) (laid : m.LaidOut layout) :
    (m.perform a).LaidOut layout := by
  cases a with
  | step elapsed =>
    rcases m.perform_step elapsed with same | ⟨timers, o, result⟩
    · rwa [same]
    · exact result_laidOut laid result
  | keypad a =>
    obtain ⟨k, input, rfl⟩ := laid
    rw [perform_keypad m k a input]
    exact ⟨_, rfl, k.perform_layout a⟩
  | reset =>
    obtain ⟨k, input, rfl⟩ := laid
    refine ⟨k.reset, ?_, rfl⟩
    simp only [perform, reset, input, Input.reset]
  | _ =>
    rw [LaidOut, (m.perform_untouched _ id).input]
    exact laid

end Layout

/-- A machine switched on, with an image loaded if there is one. -/
def switchedOn (layout : Layout) (random : RandomSource) (image? : Option (List UInt8)) : Machine :=
  (fresh (.keypad { layout }) random).session (image?.toList.map .load)

theorem lastLoaded_fits (actions : List HostAction) (image : List UInt8)
    (last : lastLoaded? actions = some image) : image.length ≤ Memory.programCapacity := by
  obtain ⟨a, _, loaded⟩ := List.mem_filterMap.mp (List.mem_of_getLast? last)
  cases a with
  | load other =>
    simp only [HostAction.loaded?] at loaded
    split at loaded
    · next fits =>
      cases loaded
      exact fits
    · cases loaded
  | _ => cases loaded

theorem load_nil (memory : Memory) : memory.load [] = .ok memory := if_pos (Nat.zero_le _)

/-- An empty program leaves the glyphs alone in memory. -/
theorem freshMemory_nil : freshMemory [] = .initial := by
  rw [freshMemory, load_nil]

theorem switchedOn_eq (layout : Layout) (random : RandomSource) (image? : Option (List UInt8))
    (fits : ∀ image, image? = some image → image.length ≤ Memory.programCapacity) :
    switchedOn layout random image? = { fresh (.keypad { layout }) random with
      memory := freshMemory (image?.getD []), program := image?.getD [] } := by
  cases image? with
  | none =>
    rw [Option.getD_none, freshMemory_nil]
    rfl
  | some image =>
    have loaded := load_fresh (.keypad { layout }) random image (fits image rfl)
    have one : switchedOn layout random (some image) =
        (fresh (.keypad { layout }) random).perform (.load image) := rfl
    rw [one]
    simp only [perform, loaded]
    rfl

/-- A reset leaves the parts of a machine that are switched on anew, and those that stay. -/
theorem reset_eq (m : Machine) (layout : Layout) (laid : m.LaidOut layout) :
    m.reset = { fresh (.keypad { layout }) m.random with
      memory := freshMemory m.program, program := m.program
      breakpoints := m.breakpoints, tracing := m.tracing } := by
  obtain ⟨k, input, rfl⟩ := laid
  rw [reset, input]
  rfl

/-- A machine that is reset is one that is switched on with the last image loaded, up to its random
source, its breakpoints and its trace switch; it cannot be told from one with the trace switched as
well and the same random values.  An image that is too large is refused and changes nothing. -/
theorem reset_switchedOn (k : Keypad) (random : RandomSource) (actions : List HostAction) :
    let m := (fresh (.keypad k) random).session actions
    let image? := lastLoaded? actions
    m.reset = { switchedOn k.layout m.random image? with
      breakpoints := m.breakpoints, tracing := m.tracing } ∧
    (∀ source : RandomSource, m.random.Agrees source → ∀ later : List HostAction,
      let start := (switchedOn k.layout source image?).perform (.switchTrace m.tracing)
      (m.reset.session later).Alike (start.session later) ∧
        start.answers later = m.reset.answers later) ∧
    ∀ image : List UInt8,
      (∀ e, m.load image = .error e ↔ 3584 < image.length ∧ e = ⟨image.length⟩) ∧
      (3584 < image.length → m.perform (.load image) = m) := by
  intro m image?
  have laid : m.LaidOut k.layout :=
    session_kept (·.LaidOut k.layout) actions (fun m a _ => perform_laidOut m a) _ ⟨k, rfl, rfl⟩
  have program : m.program = image?.getD [] := session_program _ actions
  have again : m.reset = { switchedOn k.layout m.random image? with
      breakpoints := m.breakpoints, tracing := m.tracing } := by
    rw [reset_eq m k.layout laid, program, switchedOn_eq _ _ _ (lastLoaded_fits actions)]
  refine ⟨again, ?_, ?_⟩
  · intro source agrees later
    apply session_alike
    rw [again, switchedOn_eq _ _ _ (lastLoaded_fits actions),
      switchedOn_eq _ _ _ (lastLoaded_fits actions)]
    exact .differing source [] agrees
  · intro image
    have capacity : Memory.programCapacity = 3584 := rfl
    rw [perform, load_eq, capacity]
    by_cases fits : image.length ≤ 3584
    · have small : ¬ 3584 < image.length := by omega
      simp [fits, small]
    · have large : 3584 < image.length := by omega
      simp [fits, large, eq_comm]

theorem zeros_agree : (RandomSource.repeating []).Agrees (.repeating [0]) := by
  intro n
  simp only [RandomSource.value, RandomSource.repeating, RandomSource.drawn_cycle, RandomSource.draw]
  simp [Nat.mod_one]

/-- A program that is written over and replaced while a key is down. -/
def replacement : List HostAction :=
  [.load [0x12, 0x00, 0x12], .keypad (.press 5), .write 0x200 [0xFF], .setDelay 9,
    .load [0x13, 0x37]]

/-- The machine goes on after a reset as one into which only the second program was loaded, also with
another source of zeros. -/
theorem reset_switchedOn_replacement :
    let m := (fresh (.keypad {}) (.repeating [])).session replacement
    let start := (switchedOn .standard (.repeating [0]) (some [0x13, 0x37])).perform
      (.switchTrace false)
    let later : List HostAction := [.step .missing, .keypad (.press 1), .step .missing]
    m.reset = { switchedOn .standard (.repeating []) (some [0x13, 0x37]) with
      breakpoints := [], tracing := false } ∧
    (m.reset.session later).Alike (start.session later) ∧
      start.answers later = m.reset.answers later := by
  intro m start later
  obtain ⟨again, alike, _⟩ := reset_switchedOn {} (.repeating []) replacement
  exact ⟨again, alike (.repeating [0]) zeros_agree later⟩

end Machine
end Chip8
