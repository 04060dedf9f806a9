import Chip8.CommandLine.Value
import Chip8.Proofs.Keypad.Levels
import Chip8.Proofs.Numeral.Integer

/-!
# Numbers on the command line

An address is read as the number that its digits spell, in either case, with or without a mark of
their base and between any blanks.  A scheduled press is read as the key, the step and the hold that
it is written with; whatever is read has a hold of at least one step, and a text that does not hold
exactly one `@` has not the form of a press.
-/
namespace Chip8.CommandLine

/-- Whether characters are the hexadecimal digits of a number, each in either case. -/
def HexDigitsOf (n : Nat) (digits : List Char) : Prop :=
  digits.map Char.toUpper = Text.hexDigits n

theorem HexDigitsOf.spells {n : Nat} {digits : List Char} (written : HexDigitsOf n digits) :
    Numeral.Spells 16 digits n := by
  apply Numeral.Spells.of_toUpper
  rw [written]
  exact Numeral.spells_hexDigits n

theorem HexDigitsOf.ne_nil {n : Nat} {digits : List Char} (written : HexDigitsOf n digits) :
    digits ≠ [] := by
  rintro rfl
  have none : Text.hexDigits n = [] := written.symm
  rw [Text.hexDigits] at none
  split at none <;> simp at none

/-- A dollar sign is cut off, and the marks of a numeral are left. -/
theorem withoutDollar_marked (digits : List Char) (mark : String) (none : '$' ∉ digits)
    (marked : mark ∈ "$" :: Numeral.hexMarks) :
    ∃ rest ∈ Numeral.hexMarks,
      withoutDollar (mark ++ String.ofList digits) = rest ++ String.ofList digits := by
  rcases List.mem_cons.mp marked with rfl | other
  · refine ⟨"", by decide, ?_⟩
    simp [withoutDollar]
  · have unmarked : ∀ mark ∈ Numeral.hexMarks, '$' ∉ mark.toList := by decide
    refine ⟨mark, other, ?_⟩
    unfold withoutDollar
    split
    · next rest whole =>
      have first : '$' ∈ (mark ++ String.ofList digits).toList := by simp [whole]
      simp [unmarked mark other, none] at first
    · rfl

/-- Digits between blanks, after a mark of their base, are read as their number. -/
theorem address_written (n : Nat) (digits before after : List Char) (mark : String)
    (written : HexDigitsOf n digits) (marked : mark ∈ "$" :: Numeral.hexMarks)
    (front : ∀ c ∈ before, Text.blank.contains c) (back : ∀ c ∈ after, Text.blank.contains c) :
    address (String.ofList before ++ mark ++ String.ofList digits ++ String.ofList after) =
      .ok (n : Int) := by
  have spells := written.spells
  have all := spells.allDigits
  have stripped : Text.strip (String.ofList before ++ mark ++ String.ofList digits ++
      String.ofList after) = mark ++ String.ofList digits := by
    have kept : ∀ c ∈ mark.toList ++ digits, Text.blank.contains c = false := by
      intro c member
      have visible : ∀ c ∈ mark.toList, Text.Visible c := by
        rcases List.mem_cons.mp marked with rfl | numeral
        · simp [Text.Visible]
        · exact Numeral.visible_hexMark mark numeral
      rcases List.mem_append.mp member with inMark | inDigits
      · exact (visible c inMark).not_blank
      · exact (Numeral.visible_digit (all c inDigits)).not_blank
    have core := Text.trimBoth_surrounded before (mark.toList ++ digits) after front back kept
    simp only [Text.strip, String.toList_append, String.toList_ofList, List.append_assoc] at core ⊢
    rw [core, String.ofList_append, String.ofList_toList]
  obtain ⟨rest, numeral, cut⟩ :=
    withoutDollar_marked digits mark (all.not_mem (by decide)) marked
  have read := Numeral.hexadecimal?_spelled written.ne_nil spells rest numeral
  unfold address
  simp only [stripped, cut, read]

/-! ## Presses -/

/-- The numbers of a press are those of its parts. -/
theorem pressNumbers?_eq_some_iff (s : String) (key step hold : Int) :
    pressNumbers? s = some (key, step, hold) ↔
      ∃ front back, Text.splitFirst? '@' s = some (front, back) ∧
        Numeral.hexadecimal? front = some key ∧
        ((Text.splitFirst? ':' back = none ∧ Numeral.decimal? back = some step ∧
            hold = defaultHold) ∨
          ∃ first second, Text.splitFirst? ':' back = some (first, second) ∧
            Numeral.decimal? first = some step ∧ Numeral.decimal? second = some hold) := by
  unfold pressNumbers?
  cases outer : Text.splitFirst? '@' s with
  | none => simp
  | some parts =>
    obtain ⟨front, back⟩ := parts
    cases inner : Text.splitFirst? ':' back with
    | none =>
      simp only [inner, Option.bind_eq_bind, Option.bind_some, Option.bind_eq_some_iff]
      grind
    | some times =>
      obtain ⟨first, second⟩ := times
      simp only [inner, Option.bind_eq_bind, Option.bind_some, Option.bind_eq_some_iff]
      grind

/-- A press is accepted exactly as the numbers that are read, if they are in range. -/
theorem scheduledPress_eq_ok_iff (s : String) (p : ScheduledPress) :
    scheduledPress s = .ok p ↔
      pressNumbers? s = some ((p.key.val : Int), (p.step : Int), (p.hold : Int)) ∧ 1 ≤ p.hold := by
  unfold scheduledPress
  cases read : pressNumbers? s with
  | none => simp
  | some numbers =>
    obtain ⟨key, step, hold⟩ := numbers
    cases named : key? key with
    | error e =>
      have other : key ≠ p.key.val := by
        intro same
        rw [(Keypad.key?_eq_ok_iff key p.key).mpr same] at named
        cases named
      simp [named, other]
    | ok k =>
      have number := (Keypad.key?_eq_ok_iff key k).mp named
      simp only [named]
      obtain ⟨key', step', hold'⟩ := p
      split
      · simp only [Except.ok.injEq, ScheduledPress.mk.injEq, Option.some.injEq, Prod.mk.injEq,
          Fin.ext_iff]
        omega
      · simp only [reduceCtorEq, Option.some.injEq, Prod.mk.injEq, false_iff]
        omega

/-- A text without a mark or with two marks between key and step has not the form of a press. -/
theorem pressNumbers?_spoilt (s : String) (marks : s.toList.count '@' ≠ 1) :
    pressNumbers? s = none := by
  cases read : pressNumbers? s with
  | none => rfl
  | some numbers =>
    obtain ⟨key, step, hold⟩ := numbers
    obtain ⟨front, back, split, _, times⟩ := (pressNumbers?_eq_some_iff s key step hold).mp read
    obtain ⟨whole, first⟩ := (Text.splitFirst?_eq_some_iff '@' s front back).mp split
    have more : '@' ∈ back.toList := by
      rw [whole, List.count_append, List.count_cons_self,
        List.count_eq_zero_of_not_mem first] at marks
      exact List.count_pos_iff.mp (by omega)
    have spoilt : ∀ part : String, '@' ∈ part.toList → Numeral.decimal? part = none := by
      intro part held
      exact Numeral.decimal?_spoilt part '@' (by decide) (by decide) (by decide) held
    rcases times with ⟨_, readStep, _⟩ | ⟨first, second, parted, readStep, readHold⟩
    · rw [spoilt back more] at readStep
      cases readStep
    · obtain ⟨parts, _⟩ := (Text.splitFirst?_eq_some_iff ':' back first second).mp parted
      rw [parts, List.mem_append, List.mem_cons] at more
      rcases more with inStep | colon | inHold
      · rw [spoilt first inStep] at readStep
        cases readStep
      · cases colon
      · rw [spoilt second inHold] at readHold
        cases readHold

theorem not_mem_toString (n : Nat) (c : Char) (other : Numeral.digit? 10 c = none) :
    c ∉ (toString n).toList := by
  have digits : (toString n).toList = Nat.toDigits 10 n := Nat.toList_repr
  rw [digits]
  exact (Numeral.spells_toDigits n).allDigits.not_mem other

/-- The text of a key before the mark of its step. -/
theorem not_mem_hexText (digits : List Char) (mark : String) (key : Nat)
    (written : HexDigitsOf key digits) (marked : mark ∈ Numeral.hexMarks) :
    '@' ∉ (mark ++ String.ofList digits).toList := by
  have unmarked : ∀ mark ∈ Numeral.hexMarks, '@' ∉ mark.toList := by decide
  have digit : '@' ∉ digits := written.spells.allDigits.not_mem (by decide)
  simp [unmarked mark marked, digit]

/-- A press that is written with its hold is read as it is written. -/
theorem scheduledPress_held (key : Fin 16) (digits : List Char) (mark : String) (step hold : Nat)
    (written : HexDigitsOf key digits) (marked : mark ∈ Numeral.hexMarks) (lasts : 1 ≤ hold)
    (shortStep : (toString step).length ≤ Numeral.maxDecimalDigits)
    (shortHold : (toString hold).length ≤ Numeral.maxDecimalDigits) :
    scheduledPress (mark ++ String.ofList digits ++ "@" ++ toString step ++ ":" ++ toString hold) =
      .ok ⟨key, step, hold⟩ := by
  rw [scheduledPress_eq_ok_iff]
  refine ⟨?_, lasts⟩
  rw [pressNumbers?_eq_some_iff]
  refine ⟨mark ++ String.ofList digits, toString step ++ ":" ++ toString hold, ?_, ?_,
    .inr ⟨toString step, toString hold, ?_, ?_, ?_⟩⟩
  · rw [Text.splitFirst?_eq_some_iff]
    exact ⟨by simp, not_mem_hexText digits mark key written marked⟩
  · exact Numeral.hexadecimal?_spelled written.ne_nil written.spells mark marked
  · rw [Text.splitFirst?_eq_some_iff]
    exact ⟨by simp, not_mem_toString step ':' (by decide)⟩
  · exact Numeral.decimal?_toString step shortStep
  · exact Numeral.decimal?_toString hold shortHold

/-- A press that is written without a hold is held for five steps. -/
theorem scheduledPress_unheld (key : Fin 16) (digits : List Char) (mark : String) (step : Nat)
    (written : HexDigitsOf key digits) (marked : mark ∈ Numeral.hexMarks)
    (shortStep : (toString step).length ≤ Numeral.maxDecimalDigits) :
    scheduledPress (mark ++ String.ofList digits ++ "@" ++ toString step) = .ok ⟨key, step, 5⟩ := by
  rw [scheduledPress_eq_ok_iff]
  refine ⟨?_, by simp⟩
  rw [pressNumbers?_eq_some_iff]
  refine ⟨mark ++ String.ofList digits, toString step, ?_, ?_, .inl ⟨?_, ?_, rfl⟩⟩
  · rw [Text.splitFirst?_eq_some_iff]
    exact ⟨by simp, not_mem_hexText digits mark key written marked⟩
  · exact Numeral.hexadecimal?_spelled written.ne_nil written.spells mark marked
  · rw [Text.splitFirst?_eq_none_iff]
    exact not_mem_toString step ':' (by decide)
  · exact Numeral.decimal?_toString step shortStep

/-- What it means that a text is read as a press or refused: a press has the numbers of the text,
none of them changed, and its hold is one step at least; a text that does not hold exactly one mark
between key and step is refused for its form. -/
structure ReadsPress (s : String) : Prop where
  answered : (∃ e, scheduledPress s = .error e) ∨ ∃ p, scheduledPress s = .ok p ∧
    pressNumbers? s = some ((p.key.val : Int), (p.step : Int), (p.hold : Int)) ∧ 1 ≤ p.hold
  refused : s.toList.count '@' ≠ 1 → scheduledPress s = .error (.pressForm s)

theorem readsPress (s : String) : ReadsPress s where
  answered := by
    cases read : scheduledPress s with
    | error e => exact .inl ⟨e, rfl⟩
    | ok p => exact .inr ⟨p, rfl, (scheduledPress_eq_ok_iff s p).mp read⟩
  refused := by
    intro marks
    rw [scheduledPress, pressNumbers?_spoilt s marks]

/-- Numbers are read from the command line as they are written: an address between any blanks, in
either case and with any of its marks, and a press with its key, its step and its hold or without a
hold; and any text is read as a press in range or refused. -/
theorem numbers_read :
    (∀ (n : Nat) (digits before after : List Char) (mark : String), HexDigitsOf n digits →
      mark ∈ ["$", "", "0x", "0X"] → (∀ c ∈ before, Text.blank.contains c) →
      (∀ c ∈ after, Text.blank.contains c) →
      address (String.ofList before ++ mark ++ String.ofList digits ++ String.ofList after) =
        .ok (n : Int)) ∧
    (∀ (key : Fin 16) (digits : List Char) (mark : String) (step hold : Nat),
      HexDigitsOf key digits → mark ∈ ["", "0x", "0X"] → 1 ≤ hold →
      (toString step).length ≤ 4300 → (toString hold).length ≤ 4300 →
      scheduledPress (mark ++ String.ofList digits ++ "@" ++ toString step ++ ":" ++
        toString hold) = .ok ⟨key, step, hold⟩) ∧
    (∀ (key : Fin 16) (digits : List Char) (mark : String) (step : Nat),
      HexDigitsOf key digits → mark ∈ ["", "0x", "0X"] → (toString step).length ≤ 4300 →
      scheduledPress (mark ++ String.ofList digits ++ "@" ++ toString step) =
        .ok ⟨key, step, 5⟩) ∧
    (∀ s : String, ReadsPress s) :=
  ⟨address_written, scheduledPress_held, scheduledPress_unheld, readsPress⟩

/-- Small letters, a dollar sign and blanks; a capital, and a hold. -/
theorem numbers_read_marked :
    address "\t$1ff \n" = .ok 0x1FF ∧ scheduledPress "A@120:10" = .ok ⟨10, 120, 10⟩ ∧
      scheduledPress "0xa@120" = .ok ⟨10, 120, 5⟩ ∧
      scheduledPress "A@1@2:3" = .error (.pressForm "A@1@2:3") := by
  have number : HexDigitsOf 0x1FF ['1', 'f', 'f'] := by
    simp [HexDigitsOf, Text.hexDigits, Text.hexDigit]
  have capital : HexDigitsOf 10 ['A'] := by
    simp [HexDigitsOf, Text.hexDigits, Text.hexDigit]
  have small : HexDigitsOf 10 ['a'] := by
    simp [HexDigitsOf, Text.hexDigits, Text.hexDigit]
  have before : ∀ c ∈ ['\t'], Text.blank.contains c := by
    rw [← List.all_eq_true]
    decide
  have after : ∀ c ∈ [' ', '\n'], Text.blank.contains c := by
    rw [← List.all_eq_true]
    decide
  obtain ⟨addresses, held, unheld, presses⟩ := numbers_read
  refine ⟨?_, ?_, ?_, ?_⟩
  · exact addresses 0x1FF ['1', 'f', 'f'] ['\t'] [' ', '\n'] "$" number (by decide) before after
  · exact held 10 ['A'] "" 120 10 capital (by decide) (by decide) (by decide) (by decide)
  · exact unheld 10 ['a'] "0x" 120 small (by decide) (by decide)
  · exact (presses "A@1@2:3").refused (by decide)

end Chip8.CommandLine
