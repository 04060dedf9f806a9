import Chip8.Proofs.Bare.Machine
import Chip8.Proofs.Opcode.Digits

/-!
# Decoding by tables

The tables of the decoder give every word the operation that its digits have.  So no lookup in them
fails, and a word other than zero is never decoded to the end of the program, for which there is no
handler.
-/
namespace Chip8

/-- A word with its operation. -/
def Opcode.instruction (w : Opcode) : Bare.Instruction := ⟨w.operation, w.value⟩

namespace Bare

section Digits
variable (w : Opcode)

theorem instruction_x : w.instruction.x = w.x.val := by
  simp only [Opcode.instruction, Instruction.x, Opcode.x]
  omega

theorem instruction_y : w.instruction.y = w.y.val := by
  simp only [Opcode.instruction, Instruction.y, Opcode.y]
  omega

theorem instruction_n : w.instruction.n = w.n.val := by
  simp only [Opcode.instruction, Instruction.n, Opcode.n]
  omega

theorem instruction_kk : w.instruction.kk = w.kk.toNat := by
  simp only [Opcode.instruction, Instruction.kk, Opcode.kk, UInt8.toNat_ofNat']
  omega

theorem instruction_nnn : w.instruction.nnn = w.nnn := by
  simp only [Opcode.instruction, Instruction.nnn, Opcode.nnn]
  omega

end Digits

/-! ## Tables -/

/-- A number that is the key of no entry of a table. -/
theorem lookup_absent (table : List (Int × Operation)) (key : Nat)
    (absent : ∀ e ∈ table, e.1 ≠ (key : Int)) :
    (table.lookup (key : Int)).getD .unknown = .unknown := by
  induction table with
  | nil => rfl
  | cons entry rest ih =>
    have other : ((key : Int) == entry.1) = false :=
      beq_eq_false_iff_ne.mpr (absent entry (List.mem_cons_self ..)).symm
    rw [List.lookup_cons, other]
    exact ih fun e member => absent e (List.mem_cons_of_mem _ member)

theorem absent_of_keys (table : List (Int × Operation)) (keys : List Nat) (key : Nat)
    (listed : table.map (·.1) = keys.map fun (k : Nat) => (k : Int)) (other : key ∉ keys) :
    (table.lookup (key : Int)).getD .unknown = .unknown := by
  refine lookup_absent table key fun e member same => other ?_
  have inside : e.1 ∈ table.map (·.1) := List.mem_map_of_mem member
  rw [listed, same, List.mem_map] at inside
  obtain ⟨k, found, equal⟩ := inside
  rwa [Int.ofNat_inj.mp equal] at found

theorem decode_value (w : Opcode) : decode w.value = .ok w.instruction := by
  have low : (w.value : Int) % 65536 = w.value := by
    have := w.value_lt
    omega
  have family : (w.value : Int) / 4096 = (w.family : Int) := rfl
  have last : (w.value : Int) % 16 = (w.n.val : Int) := rfl
  have byte : (w.value : Int) % 256 = (w.low : Int) := rfl
  have fits := w.operation_fits
  simp only [decode, low, family, last, byte, Opcode.instruction]
  cases op : w.operation with
  | unknown =>
    rw [op] at fits
    rcases fits with ⟨first, other⟩ | ⟨first, other⟩ | ⟨first, other⟩ | ⟨first, other⟩
    · have positive : ¬ (w.value : Int) = 0 := by
        intro zero
        exact other (Int.ofNat_inj.mp zero ▸ List.mem_cons_self ..)
      have absent := absent_of_keys systemWords [0x00E0, 0x00EE] w.value rfl
        fun member => other (List.mem_cons_of_mem _ member)
      simp only [first, absent, if_neg positive]
      rfl
    · simp only [first, absent_of_keys arithmeticDigits _ w.n.val rfl other]
      rfl
    · simp only [first, absent_of_keys keyBytes _ w.low rfl other]
      rfl
    · simp only [first, absent_of_keys otherBytes _ w.low rfl other]
      rfl
  | halt | clearScreen | ret =>
    rw [op] at fits
    simp only [Operation.Fits] at fits
    simp only [fits, Opcode.family]
    rfl
  | _ =>
    rw [op] at fits
    simp only [Operation.Fits] at fits
    simp only [fits]
    rfl

/-- A word other than zero has an operation other than the end of the program. -/
theorem decode_proper (word : Int) (positive : 0 < word) (bounded : word < 65536) :
    ∃ i, decode word = .ok i ∧ i.op ≠ .halt := by
  have value : ((Opcode.ofInt word).value : Int) = word := by
    rw [Opcode.value_ofInt]
    omega
  have decoded := decode_value (.ofInt word)
  rw [value] at decoded
  refine ⟨_, decoded, fun zero => ?_⟩
  have none : (Opcode.ofInt word).value = 0 := (Opcode.operation_eq_iff _ .halt).mp zero
  omega

end Bare
end Chip8
