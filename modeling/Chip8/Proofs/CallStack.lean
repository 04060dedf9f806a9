import Chip8.CallStack

/-!
# The size of the call stack

A push that succeeds found room and a pop that succeeds found an entry, so a stack of at most
sixteen entries stays one.
-/
namespace Chip8.CallStack

/-- Whether a stack is one of the machine's, with at most sixteen entries. -/
structure Sized (s : CallStack) : Prop where
  depth : s.depth = 16
  size : s.entries.length ≤ 16

theorem push_success (s after : CallStack) (address : Int) (success : s.push address = .ok after) :
    (s.entries.length : Int) < s.depth ∧
      after = { s with entries := UInt16.ofInt address :: s.entries } := by
  unfold push size at success
  split at success
  · cases success
  · next room =>
    cases success
    exact ⟨by omega, rfl⟩

theorem pop_success (s after : CallStack) (address : UInt16) (success : s.pop = .ok (address, after)) :
    s.entries = address :: after.entries ∧ after.depth = s.depth := by
  unfold pop at success
  split at success
  · cases success
  · next top rest entries =>
    cases success
    exact ⟨entries, rfl⟩

theorem Sized.push {s after : CallStack} (sized : s.Sized) (address : Int)
    (success : s.push address = .ok after) : after.Sized := by
  obtain ⟨room, rfl⟩ := push_success s after address success
  have depth := sized.depth
  refine ⟨depth, ?_⟩
  rw [List.length_cons]
  omega

theorem Sized.pop {s after : CallStack} (sized : s.Sized) (address : UInt16)
    (success : s.pop = .ok (address, after)) : after.Sized := by
  obtain ⟨entries, depth⟩ := pop_success s after address success
  have size := sized.size
  rw [entries, List.length_cons] at size
  exact ⟨depth.trans sized.depth, by omega⟩

end Chip8.CallStack
