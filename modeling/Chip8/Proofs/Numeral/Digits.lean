import Chip8.Numeral.Digits
import Chip8.Text.Hexadecimal

/-!
# Digits that are read

A digit that was written is read as the number it was written for.  A numeral consists of digits, so
a character without a value as a digit stands in none.
-/
namespace Chip8.Numeral

/-- Whether all characters are digits of a base. -/
def AllDigits (base : Nat) (cs : List Char) : Prop := ∀ c ∈ cs, (digit? base c).isSome

theorem AllDigits.not_mem {base : Nat} {cs : List Char} (digits : AllDigits base cs) {c : Char}
    (other : digit? base c = none) : c ∉ cs := by
  intro member
  have value := digits c member
  simp [other] at value

theorem digit?_hexDigit (d : Nat) (small : d < 16) : digit? 16 (Text.hexDigit d) = some d := by
  have all : ∀ d : Fin 16, digit? 16 (Text.hexDigit d) = some d.val := by decide
  exact all ⟨d, small⟩

theorem allDigits_hexDigits (n : Nat) : AllDigits 16 (Text.hexDigits n) := by
  fun_induction Text.hexDigits n with
  | case1 n small =>
    simp [AllDigits, digit?_hexDigit n small]
  | case2 n large ih =>
    intro c member
    rcases List.mem_append.mp member with front | last
    · exact ih c front
    · have digit := digit?_hexDigit (n % 16) (Nat.mod_lt n (by decide))
      simp [List.mem_singleton.mp last, digit]

theorem allDigits_hexByte (b : UInt8) : AllDigits 16 (Text.hexByte b) := by
  have bound := b.toNat_lt
  have high := digit?_hexDigit (b.toNat / 16) (by omega)
  have low := digit?_hexDigit (b.toNat % 16) (by omega)
  simp [AllDigits, Text.hexByte, high, low]

/-- A number in a field consists of digits and, perhaps, a sign. -/
theorem not_mem_hex (width : Nat) (n : Int) {c : Char} (unsigned : c ≠ '-')
    (other : digit? 16 c = none) : c ∉ (Text.hex width n).toList := by
  have zero : c ≠ '0' := by
    rintro rfl
    simp [digit?, digitValue?] at other
  have digits := (allDigits_hexDigits n.natAbs).not_mem other
  unfold Text.hex
  split <;> simp [unsigned, zero, digits]

end Chip8.Numeral
