import Chip8.Text.Layout

/-!
# Texts of several lines

Texts that hold no line break are found again as the lines of the text that joins them, each of them
once and in their order.  Joining no texts gives the empty text, which reads as one empty line.
-/
namespace Chip8.Text

/-- Whether a text holds no line break. -/
def Unbroken (s : String) : Prop := '\n' ∉ s.toList

instance (s : String) : Decidable (Unbroken s) := inferInstanceAs (Decidable (¬ _))

/-- The characters of a text show that it has no line break. -/
theorem unbroken_ofList (cs : List Char) (single : '\n' ∉ cs) : Unbroken (String.ofList cs) := by
  rwa [Unbroken, String.toList_ofList]

@[simp] theorem unbroken_append (s t : String) : Unbroken (s ++ t) ↔ Unbroken s ∧ Unbroken t := by
  simp [Unbroken]

theorem unbroken_blanks (n : Nat) : Unbroken (blanks n) := by
  apply unbroken_ofList
  simp

@[simp] theorem unbroken_padRight (width : Nat) (s : String) :
    Unbroken (padRight width s) ↔ Unbroken s := by
  simp [padRight, unbroken_blanks]

theorem unbroken_intercalate (mark : String) (parts : List String) (single : Unbroken mark)
    (whole : ∀ s ∈ parts, Unbroken s) : Unbroken (mark.intercalate parts) := by
  induction parts with
  | nil => simp [Unbroken]
  | cons s rest ih =>
    have later := ih fun t member => whole t (List.mem_cons_of_mem s member)
    cases rest with
    | nil => simpa using whole
    | cons t rest =>
      rw [String.intercalate_cons_cons]
      simp [single, later, whole s List.mem_cons_self]

/-- The lines of joined texts are those texts. -/
theorem lines_unlines (texts : List String) (whole : ∀ s ∈ texts, Unbroken s) :
    lines (unlines texts) = if texts = [] then [""] else texts := by
  have mark : "\n".toList = ['\n'] := rfl
  rw [lines, unlines, String.toList_intercalate, mark]
  split
  · next none => simp [none]
  · next some =>
    rw [List.splitOn_intercalate]
    · simp
    · intro cs member
      obtain ⟨s, listed, rfl⟩ := List.mem_map.mp member
      exact whole s listed
    · simpa using some

end Chip8.Text
