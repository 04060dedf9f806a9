import Chip8.Text.Hexadecimal

/-!
# Hexadecimal digits

A number that fits in a field has the digits of the field, one for each power of sixteen.  So a word
in a field of four digits reads as its two bytes, one after the other.
-/
namespace Chip8.Text

/-- The last `width` digits of a number, most significant first. -/
def lowDigits : Nat → Nat → List Char
  | 0, _ => []
  | width + 1, n => lowDigits width (n / 16) ++ [hexDigit (n % 16)]

theorem lowDigits_zero (width : Nat) : lowDigits width 0 = List.replicate width '0' := by
  induction width with
  | zero => rfl
  | succ width ih =>
    have digit : hexDigit 0 = '0' := rfl
    rw [lowDigits, Nat.zero_div, Nat.zero_mod, ih, digit, List.replicate_succ']

/-- Zeros in front of a number that fits in a field fill the field. -/
theorem padded_hexDigits (width n : Nat) (fits : n < Nat.pow 16 (width + 1)) :
    List.replicate (width + 1 - (hexDigits n).length) '0' ++ hexDigits n =
      lowDigits (width + 1) n := by
  induction width generalizing n with
  | zero =>
    have small : n < 16 := fits
    rw [hexDigits, if_pos small]
    simp [lowDigits, Nat.mod_eq_of_lt small]
  | succ width ih =>
    rw [hexDigits, lowDigits]
    split
    · next small =>
      rw [Nat.div_eq_of_lt small, lowDigits_zero, Nat.mod_eq_of_lt small]
      rfl
    · have quotient : n / 16 < Nat.pow 16 (width + 1) := by
        rw [Nat.div_lt_iff_lt_mul (by decide)]
        exact fits
      rw [List.length_append, List.length_singleton, Nat.add_sub_add_right, ← List.append_assoc,
        ih (n / 16) quotient]

/-- The text of a number that fits in a field. -/
theorem hex_eq (width n : Nat) (fits : n < Nat.pow 16 (width + 1)) :
    hex (width + 1) n = String.ofList (lowDigits (width + 1) n) := by
  have natural : ¬ ((n : Int) < 0) := by omega
  simp only [hex, if_neg natural, Int.natAbs_natCast, List.length_nil, Nat.sub_zero, List.nil_append,
    padded_hexDigits width n fits]

/-- A word in a field of four digits is its two bytes. -/
theorem hex_word (high low : UInt8) :
    hex 4 ((high.toNat * 256 + low.toNat : Nat) : Int) = hexBytes [high, low] := by
  have h := high.toNat_lt
  have l := low.toNat_lt
  have first : (high.toNat * 256 + low.toNat) / 16 / 16 / 16 % 16 = high.toNat / 16 := by omega
  have second : (high.toNat * 256 + low.toNat) / 16 / 16 % 16 = high.toNat % 16 := by omega
  have third : (high.toNat * 256 + low.toNat) / 16 % 16 = low.toNat / 16 := by omega
  have fourth : (high.toNat * 256 + low.toNat) % 16 = low.toNat % 16 := by omega
  have fits : high.toNat * 256 + low.toNat < Nat.pow 16 (3 + 1) := by
    have size : Nat.pow 16 (3 + 1) = 65536 := rfl
    omega
  rw [hex_eq 3 _ fits, hexBytes]
  simp only [lowDigits, first, second, third, fourth, List.flatMap_cons, List.flatMap_nil, hexByte]
  rfl

@[simp] theorem length_hexBytes (bytes : List UInt8) :
    (hexBytes bytes).length = 2 * bytes.length := by
  rw [hexBytes, String.length_ofList]
  induction bytes with
  | nil => rfl
  | cons b rest ih =>
    rw [List.flatMap_cons, List.length_append, length_hexByte, ih, List.length_cons]
    omega

end Chip8.Text
