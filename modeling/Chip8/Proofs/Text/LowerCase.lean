import Chip8.Text.LowerCase

/-!
# Texts in lower case

Digits, punctuation and the small letters of the Latin alphabet lie apart from all capitals, and a
text of them is its own lower-case form.
-/
namespace Chip8.Text

/-- Whether a character lies below all capitals, or between the capitals of the Latin alphabet and
the accented ones. -/
def plain (c : Char) : Bool := c.toNat < 0x41 || (0x5A < c.toNat && c.toNat < 0xC0)

/-- Whether a run of capitals has no plain character. -/
def CapitalRun.Apart (r : CapitalRun) : Prop := (r.first = 0x41 ∧ r.last = 0x5A) ∨ 0xC0 ≤ r.first

instance (r : CapitalRun) : Decidable r.Apart := inferInstanceAs (Decidable (_ ∨ _))

theorem capitalRuns_apart : ∀ r ∈ capitalRuns.toList, r.Apart := by
  decide +kernel

/-- A plain character is in no run of capitals.  It is said of any runs, for the listed ones are too
many to be looked through in a proof. -/
theorem find?_apart (runs : Array CapitalRun) (apart : ∀ r ∈ runs.toList, r.Apart) (c : Char)
    (small : plain c) :
    runs.find? (fun r =>
      r.first ≤ c.toNat && c.toNat ≤ r.last && (c.toNat - r.first) % r.step = 0) = none := by
  rw [Array.find?_eq_none]
  intro r member
  have away := apart r (Array.mem_toList_iff.mpr member)
  unfold CapitalRun.Apart at away
  simp only [plain, Bool.or_eq_true, Bool.and_eq_true, decide_eq_true_eq] at small
  simp only [Bool.and_eq_true, decide_eq_true_eq]
  omega

theorem lowerChar_plain (c : Char) (small : plain c) : lowerChar c = c := by
  unfold lowerChar
  rw [find?_apart capitalRuns capitalRuns_apart c small]

theorem lowerFrom_plain (before rest : List Char) (small : rest.all plain) :
    lowerFrom before rest = rest := by
  induction rest generalizing before with
  | nil => rfl
  | cons c rest ih =>
    rw [List.all_cons, Bool.and_eq_true] at small
    obtain ⟨first, later⟩ := small
    have undotted : c ≠ '\u0130' := fun same => absurd (same ▸ first) (by decide)
    have notSigma : c ≠ '\u03a3' := fun same => absurd (same ▸ first) (by decide)
    rw [lowerFrom, if_neg undotted, if_neg notSigma, lowerChar_plain c first, ih (c :: before) later]
    rfl

/-- A text of plain characters is in lower case. -/
theorem lowerCase_plain (s : String) (small : s.toList.all plain) : lowerCase s = s := by
  rw [lowerCase, lowerFrom_plain [] s.toList small, String.ofList_toList]

end Chip8.Text
