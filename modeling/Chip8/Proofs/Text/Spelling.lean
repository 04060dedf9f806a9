import Chip8.Proofs.Numeral.Digits

/-!
# Spelled bytes

Bytes are read from their digits, two for each byte, the high one first.
-/
namespace Chip8.Text

/-- The bytes that hexadecimal digits spell, if they are digits and their number is even. -/
def spelled? : List Char → Option (List UInt8)
  | [] => some []
  | [_] => none
  | high :: low :: rest =>
    match Numeral.digit? 16 high, Numeral.digit? 16 low with
    | some h, some l => (spelled? rest).map (UInt8.ofNat (16 * h + l) :: ·)
    | _, _ => none

theorem spelled?_hexByte_append (b : UInt8) (rest : List Char) :
    spelled? (hexByte b ++ rest) = (spelled? rest).map (b :: ·) := by
  have bound := b.toNat_lt
  have high := Numeral.digit?_hexDigit (b.toNat / 16) (by omega)
  have low := Numeral.digit?_hexDigit (b.toNat % 16) (by omega)
  have whole : UInt8.ofNat (16 * (b.toNat / 16) + b.toNat % 16) = b := by
    rw [Nat.div_add_mod, UInt8.ofNat_toNat]
  simp only [hexByte, List.cons_append, List.nil_append, spelled?, high, low, whole]

/-- The digits of some bytes spell those bytes. -/
theorem spelled?_flatMap (bytes : List UInt8) : spelled? (bytes.flatMap hexByte) = some bytes := by
  induction bytes with
  | nil => rfl
  | cons b rest ih => rw [List.flatMap_cons, spelled?_hexByte_append, ih, Option.map_some]

theorem allDigits_flatMap (bytes : List UInt8) :
    Numeral.AllDigits 16 (bytes.flatMap hexByte) := by
  intro c member
  obtain ⟨b, _, digit⟩ := List.mem_flatMap.mp member
  exact Numeral.allDigits_hexByte b c digit

end Chip8.Text
