import Chip8.Registers

/-!
# Registers

The integers that a byte register holds, and the registers that keep their values when one of them is
set, or several from one on.
-/
namespace Chip8

theorem byte_range (b : UInt8) : 0 ≤ (b.toNat : Int) ∧ (b.toNat : Int) < 256 := by
  have := b.toNat_lt
  omega

theorem toNat_ofInt8 (value : Int) : ((UInt8.ofInt value).toNat : Int) = value % 256 := by
  rw [UInt8.ofInt, UInt8.toNat_ofNat']
  omega

theorem ofInt8_toNat (b : UInt8) : UInt8.ofInt b.toNat = b := by
  have range := byte_range b
  have same := toNat_ofInt8 b.toNat
  rw [← UInt8.toNat_inj]
  omega

namespace Registers

theorem get_set (r : Registers) (x i : Fin 16) (value : UInt8) :
    (r.set x value).get i = if i = x then value else r.get i := by
  have index : (x.val = i.val) ↔ i = x := by rw [Fin.ext_iff, eq_comm]
  simp only [get, set, Fin.getElem_fin, Vector.getElem_set, index]

/-- The registers from one on have the bytes that they were set to, and the others their values. -/
theorem getElem_setFrom (v : Vector UInt8 16) (start : Nat) (data : List UInt8) (i : Nat)
    (h : i < 16) :
    (setFrom v start data)[i] = if start ≤ i then data[i - start]?.getD v[i] else v[i] := by
  induction data generalizing v start with
  | nil => simp [setFrom]
  | cons b rest ih =>
    rw [setFrom, ih, Vector.getElem_setIfInBounds]
    by_cases later : start + 1 ≤ i
    · have offset : i - start = i - (start + 1) + 1 := by omega
      have other : start ≠ i := by omega
      rw [if_pos later, if_neg other, if_pos (by omega), offset, List.getElem?_cons_succ]
    · rw [if_neg later]
      by_cases first : start = i
      · subst first
        simp
      · rw [if_neg first, if_neg (by omega)]

/-- Setting registers from one on leaves the ones before it and those after the last one alone. -/
theorem getElem_setFrom_other (v : Vector UInt8 16) (start : Nat) (data : List UInt8) (i : Nat)
    (h : i < 16) (other : i < start ∨ start + data.length ≤ i) : (setFrom v start data)[i] = v[i] := by
  rw [getElem_setFrom]
  split
  · rw [List.getElem?_eq_none (by omega), Option.getD_none]
  · rfl

/-- The registers up to one, by their numbers. -/
theorem getElem?_upTo (r : Registers) (x i : Fin 16) (upTo : i ≤ x) :
    (r.upTo x)[i.val]? = some (r.get i) := by
  have below : i.val < x.val + 1 := Nat.lt_succ_of_le upTo
  rw [Registers.upTo, List.getElem?_take_of_lt below, Vector.getElem?_toList]
  exact Vector.getElem?_eq_getElem i.isLt

end Registers
end Chip8
