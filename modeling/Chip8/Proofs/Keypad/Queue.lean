import Chip8.Keypad

/-!
# The queue of presses

What a host does to a keypad, and what that does to the queue.  An edge is a press that finds its
key up.  As long as nothing is taken out, the queue holds the latest edges, up to its capacity.
-/
namespace Chip8

/-- What a host does to a keypad.  A number that names no key is refused. -/
inductive KeypadAction where
  | press (key : Int)
  | release (key : Int)
  | releaseAll
  | pressNamed (name : String)
  | releaseNamed (name : String)
  | poll
  | clearEvents
  | reset

/-- Whether an action presses keys or lets them go, and leaves the queue otherwise alone. -/
def KeypadAction.Handles : KeypadAction → Prop
  | .press _ | .release _ | .releaseAll | .pressNamed _ | .releaseNamed _ => True
  | .poll | .clearEvents | .reset => False

namespace Keypad

/-- The keypad after an action; a refused action changes nothing. -/
def perform (k : Keypad) : KeypadAction → Keypad
  | .press n =>
    match key? n with
    | .ok key => k.press key
    | .error _ => k
  | .release n =>
    match key? n with
    | .ok key => k.release key
    | .error _ => k
  | .releaseAll => k.releaseAll
  | .pressNamed name => k.pressNamed name
  | .releaseNamed name => k.releaseNamed name
  | .poll => k.poll.2
  | .clearEvents => k.clearEvents
  | .reset => k.reset

/-- The keypad after one action after the other. -/
def performAll (k : Keypad) (actions : List KeypadAction) : Keypad := actions.foldl perform k

/-- What an action answers and the keypad that it leaves, unless it is refused. -/
def respond (k : Keypad) : KeypadAction → Except KeyError (Option (Fin 16) × Keypad)
  | .press n => (key? n).map fun key => (none, k.press key)
  | .release n => (key? n).map fun key => (none, k.release key)
  | .releaseAll => .ok (none, k.releaseAll)
  | .pressNamed name => .ok (k.bound? name, k.pressNamed name)
  | .releaseNamed name => .ok (k.bound? name, k.releaseNamed name)
  | .poll => .ok k.poll
  | .clearEvents => .ok (none, k.clearEvents)
  | .reset => .ok (none, k.reset)

/-- The key, if it is up. -/
def ifUp (k : Keypad) (key : Fin 16) : Option (Fin 16) := if k.isDown key then none else some key

/-- The edge that an action makes, if it makes one. -/
def edge? (k : Keypad) : KeypadAction → Option (Fin 16)
  | .press n => (key? n).toOption.bind k.ifUp
  | .pressNamed name => (k.bound? name).bind k.ifUp
  | _ => none

/-- The keypad after an action is the one that it leaves, or as it was. -/
theorem perform_eq_respond (k : Keypad) (a : KeypadAction) :
    k.perform a =
      match k.respond a with
      | .ok (_, after) => after
      | .error _ => k := by
  cases a with
  | press n | release n =>
    simp only [perform, respond]
    cases key? n <;> rfl
  | _ => rfl

theorem press_layout (k : Keypad) (key : Fin 16) : (k.press key).layout = k.layout := by
  unfold press
  split <;> rfl

/-- Nothing that a host does to a keypad changes its layout. -/
theorem perform_layout (k : Keypad) (a : KeypadAction) : (k.perform a).layout = k.layout := by
  cases a with
  | press n =>
    simp only [perform]
    split
    · exact press_layout k _
    · rfl
  | release n =>
    simp only [perform]
    split <;> rfl
  | pressNamed name =>
    simp only [perform, pressNamed]
    split
    · exact press_layout k _
    · rfl
  | releaseNamed name =>
    simp only [perform, releaseNamed]
    split <;> rfl
  | poll =>
    simp only [perform, poll]
    split <;> rfl
  | releaseAll | clearEvents | reset => rfl

/-- The latest presses, as many of them as the queue holds. -/
def latest (presses : List (Fin 16)) : List (Fin 16) := presses.drop (presses.length - capacity)

/-- Nothing is dropped before the queue is full. -/
theorem latest_of_length_le (presses : List (Fin 16)) (few : presses.length ≤ capacity) :
    latest presses = presses := by
  have none : presses.length - capacity = 0 := by omega
  rw [latest, none, List.drop_zero]

theorem length_latest_le (presses : List (Fin 16)) : (latest presses).length ≤ capacity := by
  rw [latest, List.length_drop]
  omega

theorem latest_eq_nil_iff (presses : List (Fin 16)) : latest presses = [] ↔ presses = [] := by
  rw [latest, List.drop_eq_nil_iff, ← List.length_eq_zero_iff, capacity]
  omega

theorem length_enqueue_le (events : List (Fin 16)) (key : Fin 16) :
    (enqueue events key).length ≤ capacity := by
  exact length_latest_le (events ++ [key])

/-- A press that joins the latest presses gives the latest presses with it. -/
theorem enqueue_latest (presses : List (Fin 16)) (key : Fin 16) :
    enqueue (latest presses) key = latest (presses ++ [key]) := by
  have joined : latest presses ++ [key] =
      (presses ++ [key]).drop (presses.length - capacity) := by
    rw [latest, List.drop_append_of_le_length (by omega)]
  unfold enqueue
  rw [joined, latest, List.drop_drop]
  congr 1
  simp only [List.length_drop, List.length_append, List.length_singleton]
  omega

theorem press_events (k : Keypad) (key : Fin 16) :
    (k.press key).events = (k.ifUp key).toList.foldl enqueue k.events := by
  unfold press ifUp
  split <;> rfl

/-- Pressing and letting go adds the edge of the action to the queue, and nothing else. -/
theorem perform_events (k : Keypad) (a : KeypadAction) (handles : a.Handles) :
    (k.perform a).events = (k.edge? a).toList.foldl enqueue k.events := by
  cases a with
  | press n =>
    simp only [perform, edge?]
    cases key? n with
    | error e => rfl
    | ok key => exact k.press_events key
  | release n =>
    simp only [perform, edge?]
    cases key? n <;> rfl
  | releaseAll => rfl
  | pressNamed name =>
    simp only [perform, edge?, pressNamed]
    cases k.bound? name with
    | none => rfl
    | some key => exact k.press_events key
  | releaseNamed name =>
    simp only [perform, edge?, releaseNamed]
    cases k.bound? name <;> rfl
  | poll | clearEvents | reset => exact handles.elim

/-- A queue of the latest edges stays one. -/
theorem perform_latest (k : Keypad) (a : KeypadAction) (handles : a.Handles)
    (edges : List (Fin 16)) (queued : k.events = latest edges) :
    (k.perform a).events = latest (edges ++ (k.edge? a).toList) := by
  rw [perform_events k a handles, queued]
  cases k.edge? a with
  | none => simp
  | some key => exact enqueue_latest edges key

theorem handled_bounded (k : Keypad) (a : KeypadAction) (handles : a.Handles)
    (bounded : k.events.length ≤ capacity) : (k.perform a).events.length ≤ capacity := by
  rw [perform_events k a handles]
  cases k.edge? a with
  | none => exact bounded
  | some key => exact length_enqueue_le k.events key

/-- No action makes the queue longer than its capacity. -/
theorem perform_bounded (k : Keypad) (a : KeypadAction) (bounded : k.events.length ≤ capacity) :
    (k.perform a).events.length ≤ capacity := by
  cases a with
  | poll =>
    simp only [perform, poll]
    split
    · exact bounded
    · next key rest queued =>
      rw [queued, List.length_cons] at bounded
      exact Nat.le_of_succ_le bounded
  | clearEvents | reset => exact Nat.zero_le _
  | press _ | release _ | releaseAll | pressNamed _ | releaseNamed _ =>
    exact handled_bounded k _ trivial bounded

theorem performAll_bounded (k : Keypad) (actions : List KeypadAction)
    (bounded : k.events.length ≤ capacity) : (k.performAll actions).events.length ≤ capacity := by
  induction actions generalizing k with
  | nil => exact bounded
  | cons a rest ih => exact ih (k.perform a) (k.perform_bounded a bounded)

end Keypad
end Chip8
