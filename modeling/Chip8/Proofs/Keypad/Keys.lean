import Chip8.Pacing

/-!
# The keys that are down

A press puts one key down and a release lets one go; the others stay as they are.  A step of the
machine takes presses out of the queue and leaves the keys alone.
-/
namespace Chip8

namespace Keypad

/-- Setting one key leaves the others as they are. -/
theorem get_setIfInBounds (down : Vector Bool 16) (key other : Fin 16) (b : Bool) :
    (down.setIfInBounds key b).get other = if other = key then b else down.get other := by
  have set : (down.setIfInBounds key b)[other.val] = if key.val = other.val then b else
      down[other.val] := Vector.getElem_setIfInBounds other.isLt
  by_cases same : other = key
  · rw [if_pos same]
    exact set.trans (if_pos (congrArg Fin.val same.symm))
  · rw [if_neg same]
    exact set.trans (if_neg fun equal => same (Fin.ext equal.symm))

theorem isDown_press (k : Keypad) (key other : Fin 16) :
    (k.press key).isDown other ↔ other = key ∨ k.isDown other := by
  unfold press
  split
  · next down =>
    refine ⟨Or.inr, ?_⟩
    rintro (rfl | before)
    · exact down
    · exact before
  · rw [isDown, get_setIfInBounds, isDown]
    split <;> simp_all

theorem isDown_release (k : Keypad) (key other : Fin 16) :
    (k.release key).isDown other ↔ other ≠ key ∧ k.isDown other := by
  rw [release, isDown, get_setIfInBounds, isDown]
  split <;> simp_all

/-- A press that is taken out of a queue leaves the other ones there. -/
theorem poll_eq (k : Keypad) : k.poll.2 = { k with events := k.events.tail } := by
  unfold poll
  split
  · next empty => rw [empty, List.tail_nil, ← empty]
  · next queued => rw [queued, List.tail_cons]

/-- What a step can make of a keypad: it leaves it alone, takes the oldest press, or forgets them
all. -/
inductive Stepped (k : Keypad) : Keypad → Prop where
  | kept : Stepped k k
  | polled : Stepped k k.poll.2
  | cleared : Stepped k k.clearEvents

theorem Stepped.isDown {k after : Keypad} (stepped : k.Stepped after) (key : Fin 16) :
    after.isDown key = k.isDown key := by
  cases stepped with
  | kept | cleared => rfl
  | polled =>
    rw [k.poll_eq]
    rfl

theorem Stepped.layout {k after : Keypad} (stepped : k.Stepped after) :
    after.layout = k.layout := by
  cases stepped with
  | kept | cleared => rfl
  | polled => rw [k.poll_eq]

end Keypad

namespace KeyAction

/-- What a host does to the keys is done to the keypad of the machine. -/
theorem performAll_keypad (m : Machine) (k : Keypad) (actions : List KeyAction)
    (input : m.input = .keypad k) :
    (performAll m actions).1 = { m with input := .keypad (actions.foldl apply k) } := by
  induction actions generalizing m k with
  | nil =>
    simp only [performAll, List.foldl_nil, ← input]
  | cons a rest ih =>
    have first : (perform m a).1 = { m with input := .keypad (a.apply k) } := by
      simp only [perform, input]
    rw [performAll, List.foldl_cons]
    exact (ih (perform m a).1 (a.apply k) (by rw [first])).trans (by rw [first])

theorem isDown_presses (k : Keypad) (keys : List (Fin 16)) (key : Fin 16) :
    ((keys.map press).foldl apply k).isDown key ↔ key ∈ keys ∨ k.isDown key := by
  induction keys generalizing k with
  | nil => simp
  | cons first rest ih =>
    rw [List.map_cons, List.foldl_cons, ih, apply, Keypad.isDown_press, List.mem_cons, or_left_comm,
      or_assoc]

theorem isDown_releases (k : Keypad) (keys : List (Fin 16)) (key : Fin 16) :
    ((keys.map release).foldl apply k).isDown key ↔ key ∉ keys ∧ k.isDown key := by
  induction keys generalizing k with
  | nil => simp
  | cons first rest ih =>
    rw [List.map_cons, List.foldl_cons, ih, apply, Keypad.isDown_release, List.mem_cons, not_or,
      and_left_comm, and_assoc]

end KeyAction
end Chip8
