import Chip8.Text.Split
import Chip8.Text.Trim

/-!
# Parts of a text

A text between characters of one kind is found again when these are cut off, and so are the parts of
a text that a mark joins.
-/
namespace Chip8.Text

/-! ## Trimmed texts -/

section
variable {p : Char → Bool}

/-- Nothing is cut off a text that begins with a character of another kind. -/
theorem dropWhile_kept (core rest : List Char) (some : core ≠ [])
    (kept : ∀ c ∈ core, p c = false) : (core ++ rest).dropWhile p = core ++ rest := by
  cases core with
  | nil => exact absurd rfl some
  | cons c more =>
    have first := kept c List.mem_cons_self
    rw [List.cons_append, List.dropWhile_cons_of_neg]
    simp [first]

/-- What stands between characters of a kind is left when they are cut off. -/
theorem trimBoth_surrounded (before core after : List Char) (front : ∀ c ∈ before, p c)
    (back : ∀ c ∈ after, p c) (kept : ∀ c ∈ core, p c = false) :
    trimBoth p (before ++ core ++ after) = core := by
  have backwards : ∀ c ∈ after.reverse, p c := by
    intro c member
    exact back c (List.mem_reverse.mp member)
  rw [trimBoth, trimEnd, List.append_assoc, List.dropWhile_append_of_pos front]
  by_cases some : core = []
  · have all : (after ++ []).dropWhile p = [] := List.dropWhile_append_of_pos back
    rw [some, List.nil_append, ← List.append_nil after, all]
    rfl
  · rw [dropWhile_kept core after some kept, List.reverse_append,
      List.dropWhile_append_of_pos backwards, ← List.append_nil core.reverse,
      dropWhile_kept core.reverse [] (by simpa using some) (by simpa using kept),
      List.append_nil, List.reverse_reverse]

theorem trimBoth_kept (core : List Char) (kept : ∀ c ∈ core, p c = false) :
    trimBoth p core = core := by
  simpa using trimBoth_surrounded [] core [] (by simp) (by simp) kept

/-- No character of another kind is cut off. -/
theorem mem_trimBoth (cs : List Char) (c : Char) (other : p c = false) (member : c ∈ cs) :
    c ∈ trimBoth p cs := by
  have front : ∀ cs : List Char, c ∈ cs → c ∈ cs.dropWhile p := by
    intro cs member
    rw [← List.takeWhile_append_dropWhile (p := p) (l := cs), List.mem_append] at member
    rcases member with cut | left
    · have cutOff := List.all_eq_true.mp List.all_takeWhile c cut
      simp [other] at cutOff
    · exact left
  rw [trimBoth, trimEnd, List.mem_reverse]
  apply front
  rw [List.mem_reverse]
  exact front cs member

end

/-- Whether a character is an ASCII character other than the space and the control characters. -/
def Visible (c : Char) : Prop := 0x20 < c.toNat ∧ c.toNat < 0x7F

instance (c : Char) : Decidable (Visible c) := inferInstanceAs (Decidable (_ ∧ _))

theorem Visible.not_blank {c : Char} (visible : Visible c) : blank.contains c = false := by
  obtain ⟨above, below⟩ := visible
  have reached : ∀ b, b ≤ 0x21 → (b ≤ c.toNat) = True := by
    intro b low
    simp only [eq_iff_iff, iff_true]
    omega
  have unreached : ∀ b, 0x7F ≤ b → (b ≤ c.toNat) = False := by
    intro b high
    simp only [eq_iff_iff, iff_false]
    omega
  simp [CharSet.contains, blank, reached, unreached]

/-! ## Split texts -/

/-- Texts that a mark joins are its parts, if the first does not hold the mark. -/
theorem splitFirst?_joined (mark : Char) (before after : List Char) (first : mark ∉ before) :
    splitFirst? mark (String.ofList (before ++ mark :: after)) =
      some (String.ofList before, String.ofList after) := by
  have cut : ∀ c ∈ before, (!decide (c = mark)) = true := by
    intro c member
    simpa using ne_of_mem_of_not_mem member first
  simp [splitFirst?, List.takeWhile_append_of_pos cut, List.dropWhile_append_of_pos cut]

theorem splitFirst?_eq_none_iff (mark : Char) (s : String) :
    splitFirst? mark s = none ↔ mark ∉ s.toList := by
  simp [splitFirst?]

/-- The parts of a text are joined by the first mark in it. -/
theorem splitFirst?_eq_some_iff (mark : Char) (s front back : String) :
    splitFirst? mark s = some (front, back) ↔
      s.toList = front.toList ++ mark :: back.toList ∧ mark ∉ front.toList := by
  constructor
  · intro split
    have held : mark ∈ s.toList := by
      by_cases held : mark ∈ s.toList
      · exact held
      · rw [(splitFirst?_eq_none_iff mark s).mpr held] at split
        cases split
    obtain ⟨before, after, whole, first⟩ := List.eq_append_cons_of_mem held
    have joined := splitFirst?_joined mark before after first
    rw [← whole, String.ofList_toList, split, Option.some.injEq, Prod.mk.injEq] at joined
    obtain ⟨rfl, rfl⟩ := joined
    rw [String.toList_ofList, String.toList_ofList]
    exact ⟨whole, first⟩
  · rintro ⟨whole, first⟩
    have joined := splitFirst?_joined mark front.toList back.toList first
    rwa [← whole, String.ofList_toList, String.ofList_toList, String.ofList_toList] at joined

end Chip8.Text
