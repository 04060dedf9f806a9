/-!
# Loops

A loop goes on from state to state until it comes to a result.  It may never do so, and then it has
none.  Every state that is reached carries the proof that what it comes to is what the loop comes
to from its start, so the result of a loop carries that proof too.
-/
namespace Chip8.Loop

section
variable {α β : Type} (f : α → α ⊕ β)

/-- Whether a loop comes to a result from a state. -/
inductive Comes : α → β → Prop where
  | last {a : α} {b : β} (ends : f a = .inr b) : Comes a b
  | next {a after : α} {b : β} (goes : f a = .inl after) (later : Comes after b) : Comes a b

/-- A state whose result, if it comes to one, is that of the start. -/
abbrev Reached (start : α) := {a : α // ∀ b, Comes f a b → Comes f start b}

/-- A result to which a loop comes from its start. -/
abbrev Answer (start : α) := {b : β // Comes f start b}

/-- One turn of a loop. -/
def turn (start : α) (s : Reached f start) : Reached f start ⊕ Answer f start :=
  match goes : f s.val with
  | .inl a => .inl ⟨a, fun b later => s.property b (.next goes later)⟩
  | .inr b => .inr ⟨b, s.property b (.last goes)⟩

/-- The result of a loop; `none` when it never comes to one. -/
def result (start : α) : Option β :=
  let answer : Option (Option (Answer f start)) :=
    repeatM (fun s => some ((turn f start s).map id some)) ⟨start, fun _ => id⟩
  answer.join.map (·.val)

end

section
variable {α β : Type} {f : α → α ⊕ β} {start : α}

theorem turn_inl (s : Reached f start) (a : α) (goes : f s.val = .inl a) :
    turn f start s = .inl ⟨a, fun b later => s.property b (.next goes later)⟩ := by
  unfold turn
  split
  · next again =>
    rw [goes] at again
    cases again
    rfl
  · next ends =>
    rw [goes] at ends
    cases ends

theorem turn_inr (s : Reached f start) (b : β) (ends : f s.val = .inr b) :
    turn f start s = .inr ⟨b, s.property b (.last ends)⟩ := by
  unfold turn
  split
  · next goes =>
    rw [ends] at goes
    cases goes
  · next again =>
    rw [ends] at again
    cases again
    rfl

/-- A state that comes to a result is repeated until it is there. -/
theorem Comes.repeated {a : α} {b : β} (comes : Comes f a b)
    (kept : ∀ b, Comes f a b → Comes f start b) :
    repeatM (fun s => some ((turn f start s).map id some)) ⟨a, kept⟩ =
      some (some ⟨b, kept b comes⟩) := by
  induction comes with
  | last ends =>
    rw [repeatM_eq_of_monadTail, repeatM.body, turn_inr _ _ ends]
    rfl
  | next goes later ih =>
    rw [repeatM_eq_of_monadTail, repeatM.body, turn_inl _ _ goes]
    exact ih _

/-- A loop has exactly the result that it comes to. -/
theorem result_eq_some_iff {b : β} : result f start = some b ↔ Comes f start b := by
  constructor
  · intro answered
    obtain ⟨answer, _, rfl⟩ := Option.map_eq_some_iff.mp answered
    exact answer.property
  · intro comes
    unfold result
    rw [comes.repeated]
    rfl

theorem result_eq :
    result f start =
      match f start with
      | .inl after => result f after
      | .inr b => some b := by
  apply Option.ext
  intro b
  rw [result_eq_some_iff]
  cases turned : f start with
  | inl after =>
    rw [result_eq_some_iff]
    constructor
    · rintro (ends | ⟨goes, later⟩)
      · rw [turned] at ends
        cases ends
      · rw [turned] at goes
        cases goes
        exact later
    · exact .next turned
  | inr answer =>
    constructor
    · rintro (ends | ⟨goes, later⟩)
      · rw [turned] at ends
        cases ends
        rfl
      · rw [turned] at goes
        cases goes
    · rintro ⟨⟩
      exact .last turned

end

end Chip8.Loop
