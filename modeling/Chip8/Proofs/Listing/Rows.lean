import Chip8.Listing
import Chip8.Machine
import Chip8.Proofs.Text.Hexadecimal

/-!
# Rows of a listing

Every second byte of a block begins a row, and the row at any one place shows the two bytes from
there.  The line of a row depends on its address and its two bytes alone, and it is the line that
the trace has for the same word at the same address.
-/
namespace Chip8.Listing

/-- The row of a word. -/
def Row.ofWord (address : Int) (high low : UInt8) : Row :=
  ⟨address, [high, low], .instruction (.ofBytes high low)⟩

/-- The row at a place whose two bytes exist. -/
theorem row?_natCast (data : List UInt8) (i : Nat) (base : Int) (within : i + 1 < data.length) :
    row? data i base = some (.ofWord (base + i) data[i] data[i + 1]) := by
  have next : ((i : Int) + 1) = ((i + 1 : Nat) : Int) := by omega
  have stop : ((i : Int) + 2) = ((i + 2 : Nat) : Int) := by omega
  have shown : Sequence.between data i ((i + 2 : Nat) : Int) = [data[i], data[i + 1]] := by
    rw [Sequence.between, Sequence.border_natCast _ _ (by omega),
      Sequence.border_natCast _ _ (by omega), List.drop_take, List.drop_eq_getElem_cons (by omega),
      List.drop_eq_getElem_cons (by omega), Nat.add_sub_cancel_left]
    rfl
  rw [row?, next, stop, Sequence.position?_natCast, Sequence.position?_natCast, dif_pos (by omega),
    dif_pos within, shown]
  rfl

/-- The row of a sweep for the word at an even offset. -/
theorem rows_getElem? (address : Int) (data : List UInt8) (k : Nat)
    (within : 2 * k + 1 < data.length) :
    (rows address data)[k]? =
      some (.ofWord (address + (2 * k : Nat)) data[2 * k] data[2 * k + 1]) := by
  induction k generalizing address data with
  | zero =>
    match data, within with
    | high :: low :: rest, _ =>
      simp [rows, Row.ofWord]
  | succ k ih =>
    match data, within with
    | high :: low :: rest, within =>
      simp only [List.length_cons] at within
      have later : (address + 2) + (2 * k : Nat) = address + (2 * (k + 1) : Nat) := by omega
      have index : 2 * (k + 1) = 2 * k + 1 + 1 := by omega
      rw [rows, List.getElem?_cons_succ, ih (address + 2) rest (by omega), later]
      simp only [index, List.getElem_cons_succ]

/-- The line of a word in a listing is its line in the trace. -/
theorem line_ofWord (address : Int) (high low : UInt8) :
    (Row.ofWord address high low).line false =
      (TraceLine.executed address (.ofBytes high low)).text := by
  have bytes : Text.hex 4 (Opcode.ofBytes high low).value = Text.hexBytes [high, low] := by
    rw [Opcode.value_ofBytes, Text.hex_word]
  have filled : Text.padRight 4 (Text.hexBytes [high, low]) = Text.hexBytes [high, low] := by
    rw [Text.padRight, Text.length_hexBytes]
    exact String.append_empty
  rw [TraceLine.text, bytes]
  simp only [Row.line, Row.text, Row.ofWord, filled]
  rfl

end Chip8.Listing
