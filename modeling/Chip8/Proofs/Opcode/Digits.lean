import Chip8.Opcode

/-!
# The digits of an operation

`Operation.Fits` is the table of the instruction set: for each operation the digits of the words
that stand for it, and for `unknown` the words of the families `0`, `8`, `E` and `F` that have no
meaning.  Every word fits exactly one operation, the one that it is decoded to.
-/
namespace Chip8

/-- The low byte of a word, as a number. -/
def Opcode.low (w : Opcode) : Nat := w.value % 256

/-- Whether the digits of a word are those of an operation. -/
def Operation.Fits (w : Opcode) : Operation → Prop
  | .halt => w.value = 0x0000
  | .clearScreen => w.value = 0x00E0
  | .ret => w.value = 0x00EE
  | .jump => w.family = 0x1
  | .call => w.family = 0x2
  | .skipIfByte => w.family = 0x3
  | .skipUnlessByte => w.family = 0x4
  | .skipIfEqual => w.family = 0x5
  | .loadByte => w.family = 0x6
  | .addByte => w.family = 0x7
  | .copy => w.family = 0x8 ∧ w.n.val = 0x0
  | .or => w.family = 0x8 ∧ w.n.val = 0x1
  | .and => w.family = 0x8 ∧ w.n.val = 0x2
  | .xor => w.family = 0x8 ∧ w.n.val = 0x3
  | .add => w.family = 0x8 ∧ w.n.val = 0x4
  | .sub => w.family = 0x8 ∧ w.n.val = 0x5
  | .shiftRight => w.family = 0x8 ∧ w.n.val = 0x6
  | .subFrom => w.family = 0x8 ∧ w.n.val = 0x7
  | .shiftLeft => w.family = 0x8 ∧ w.n.val = 0xE
  | .skipUnlessEqual => w.family = 0x9
  | .loadIndex => w.family = 0xA
  | .jumpOffset => w.family = 0xB
  | .random => w.family = 0xC
  | .draw => w.family = 0xD
  | .skipIfPressed => w.family = 0xE ∧ w.low = 0x9E
  | .skipUnlessPressed => w.family = 0xE ∧ w.low = 0xA1
  | .readDelay => w.family = 0xF ∧ w.low = 0x07
  | .awaitKey => w.family = 0xF ∧ w.low = 0x0A
  | .setDelay => w.family = 0xF ∧ w.low = 0x15
  | .setSound => w.family = 0xF ∧ w.low = 0x18
  | .addIndex => w.family = 0xF ∧ w.low = 0x1E
  | .loadGlyph => w.family = 0xF ∧ w.low = 0x29
  | .storeDecimal => w.family = 0xF ∧ w.low = 0x33
  | .storeRegisters => w.family = 0xF ∧ w.low = 0x55
  | .loadRegisters => w.family = 0xF ∧ w.low = 0x65
  | .unknown =>
    (w.family = 0x0 ∧ w.value ∉ [0x0000, 0x00E0, 0x00EE]) ∨
    (w.family = 0x8 ∧ w.n.val ∉ [0x0, 0x1, 0x2, 0x3, 0x4, 0x5, 0x6, 0x7, 0xE]) ∨
    (w.family = 0xE ∧ w.low ∉ [0x9E, 0xA1]) ∨
    (w.family = 0xF ∧ w.low ∉ [0x07, 0x0A, 0x15, 0x18, 0x1E, 0x29, 0x33, 0x55, 0x65])

namespace Opcode

theorem toNat_kk (w : Opcode) : w.kk.toNat = w.low := by
  rw [kk, low, UInt8.toNat_ofNat']
  omega

/-- A word fits the operation that it is decoded to. -/
theorem operation_fits (w : Opcode) : w.operation.Fits w := by
  have digit := w.family_lt
  unfold operation
  split
  case h_1 family => split <;> simp_all [Operation.Fits]
  case h_9 family => split <;> simp_all [Operation.Fits]
  case h_15 family => split <;> simp_all [Operation.Fits, low]
  case h_16 family => split <;> simp_all [Operation.Fits, low]
  case h_17 => grind
  all_goals assumption

/-- A word is decoded to the operation that it fits. -/
theorem operation_of_fits (w : Opcode) (o : Operation) (fits : o.Fits w) : w.operation = o := by
  cases o with
  | unknown =>
    rcases fits with ⟨family, other⟩ | ⟨family, other⟩ | ⟨family, other⟩ | ⟨family, other⟩ <;>
    · unfold operation
      simp only [family]
      split <;> simp_all [low]
  | halt | clearScreen | ret =>
    have word := fits
    simp only [Operation.Fits] at word
    simp [operation, family, word]
  | _ =>
    simp only [Operation.Fits, low] at fits
    simp [operation, fits]

theorem operation_eq_iff (w : Opcode) (o : Operation) : w.operation = o ↔ o.Fits w := by
  constructor
  · rintro rfl
    exact w.operation_fits
  · exact w.operation_of_fits o

/-! Words as the low bits of integers. -/

theorem toNat_ofInt16 (n : Int) : ((UInt16.ofInt n).toNat : Int) = n % 65536 := by
  rw [UInt16.ofInt, UInt16.toNat_ofNat']
  omega

theorem value_ofInt (n : Int) : ((ofInt n).value : Int) = n % 65536 := toNat_ofInt16 n

theorem ofInt_value (w : Opcode) : ofInt w.value = w := by
  have low := toNat_ofInt16 w.value
  have bound := w.value_lt
  have value : (UInt16.ofInt w.value).toNat = w.word.toNat := by
    simp only [Opcode.value] at *
    omega
  rw [ofInt, UInt16.toNat_inj.mp value]

end Opcode
end Chip8
