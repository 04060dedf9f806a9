import Chip8.CommandLine.Report
import Chip8.Proofs.Listing.Rows
import Chip8.Proofs.Opcode.Digits

/-!
# The linear sweep

The rows of a block show all of its bytes, each of them once and in their order: two in a row, and a
last one without a partner in a row of its own.  A block that is cut at an even offset is listed
part by part, so the first rows of a listing are the listing of the first bytes.
-/
namespace Chip8.Listing

/-- What the word with a high and a low byte is decoded to. -/
def decoded (high low : UInt8) : Opcode := .ofInt (256 * high.toNat + low.toNat)

/-- Whether a row shows two bytes, and what their word means. -/
structure Row.ShowsWord (r : Row) (high low : UInt8) : Prop where
  bytes : r.bytes = [high, low]
  operation : r.operation = (decoded high low).operation
  mnemonic : r.mnemonic = (decoded high low).operation.mnemonic
  operands : r.operands = (decoded high low).operandText
  description : r.description = (decoded high low).operation.description

/-- Whether a row shows one byte that makes no word. -/
structure Row.ShowsByte (r : Row) (b : UInt8) : Prop where
  bytes : r.bytes = [b]
  operation : r.operation = .unknown
  mnemonic : r.mnemonic = "DB"
  operands : r.operands = "$" ++ Text.hex 2 b.toNat
  description : r.description = "Trailing byte"

/-- What it means that some rows are a sweep over a block: they show its bytes, two in a row, and
the row of a pair is the one that the pair has by itself. -/
structure Sweeps (base : Int) (data : List UInt8) (listed : List Row) : Prop where
  bytes : listed.flatMap Row.bytes = data
  length : listed.length = (data.length + 1) / 2
  address : ∀ (i : Nat) (r : Row), listed[i]? = some r → r.address = base + 2 * i
  pair : ∀ (i : Nat) (_ : 2 * i + 1 < data.length), ∃ r, listed[i]? = some r ∧
    row? data (2 * i) base = some r ∧ r.ShowsWord data[2 * i] data[2 * i + 1]
  last : ∀ (i : Nat) (_ : 2 * i + 1 = data.length), ∃ r, listed[i]? = some r ∧
    r.ShowsByte data[2 * i]

theorem decoded_eq (high low : UInt8) : decoded high low = .ofBytes high low := by
  rw [decoded, ← Opcode.ofInt_value (.ofBytes high low), Opcode.value_ofBytes]
  congr 1
  omega

theorem showsWord_ofWord (address : Int) (high low : UInt8) :
    (Row.ofWord address high low).ShowsWord high low := by
  constructor
  case bytes => rfl
  all_goals
    rw [decoded_eq]
    rfl

/-! ## One row after the other -/

theorem flatMap_bytes_rows (base : Int) (data : List UInt8) :
    (rows base data).flatMap Row.bytes = data := by
  fun_induction rows base data with
  | case1 base high low rest ih => rw [List.flatMap_cons, ih]; rfl
  | case2 base b => rfl
  | case3 base => rfl

theorem length_rows (base : Int) (data : List UInt8) :
    (rows base data).length = (data.length + 1) / 2 := by
  fun_induction rows base data with
  | case1 base high low rest ih =>
    simp only [List.length_cons, ih]
    omega
  | case2 base b => simp only [List.length_cons, List.length_nil]
  | case3 base => rfl

theorem address_rows (base : Int) (data : List UInt8) (i : Nat) (r : Row)
    (listed : (rows base data)[i]? = some r) : r.address = base + 2 * i := by
  fun_induction rows base data generalizing i with
  | case1 base high low rest ih =>
    cases i with
    | zero =>
      cases listed
      exact (Int.add_zero base).symm
    | succ i =>
      have later := ih i listed
      omega
  | case2 base b =>
    cases i with
    | zero =>
      cases listed
      exact (Int.add_zero base).symm
    | succ i => cases listed
  | case3 base => cases listed

/-- A block that is cut at an even offset is listed part by part. -/
theorem rows_append (base : Int) (front back : List UInt8) (even : front.length % 2 = 0) :
    rows base (front ++ back) = rows base front ++ rows (base + front.length) back := by
  fun_induction rows base front with
  | case1 base high low rest ih =>
    have shorter : rest.length % 2 = 0 := by
      simp only [List.length_cons] at even
      omega
    have place : base + 2 + rest.length = base + (high :: low :: rest).length := by
      simp only [List.length_cons]
      omega
    rw [List.cons_append, List.cons_append, rows, ih shorter, place, List.cons_append]
  | case2 base b => cases even
  | case3 base =>
    rw [List.nil_append, List.nil_append, List.length_nil, Int.natCast_zero, Int.add_zero]

/-- The first rows are those of the first bytes. -/
theorem rows_take (base : Int) (data : List UInt8) (count : Nat) :
    rows base (data.take (2 * count)) = (rows base data).take count := by
  by_cases inside : 2 * count ≤ data.length
  · have front : (data.take (2 * count)).length = 2 * count := List.length_take_of_le inside
    have rowCount : (rows base (data.take (2 * count))).length = count := by
      rw [length_rows, front]
      omega
    have parts := rows_append base (data.take (2 * count)) (data.drop (2 * count)) (by omega)
    rw [List.take_append_drop] at parts
    rw [parts, List.take_left' rowCount]
  · rw [List.take_of_length_le (by omega), List.take_of_length_le]
    rw [length_rows]
    omega

/-- A last byte without a partner has a row of its own. -/
theorem rows_last (base : Int) (data : List UInt8) (i : Nat) (odd : 2 * i + 1 = data.length) :
    (rows base data)[i]? = some ⟨base + (2 * i : Nat), [data[2 * i]], .trailing data[2 * i]⟩ := by
  have front : (data.take (2 * i)).length = 2 * i := List.length_take_of_le (by omega)
  have rowCount : (rows base (data.take (2 * i))).length = i := by
    rw [length_rows, front]
    omega
  have alone : data.drop (2 * i) = [data[2 * i]] := by
    rw [List.drop_eq_getElem_cons (by omega), List.drop_of_length_le (by omega)]
  have parts := rows_append base (data.take (2 * i)) (data.drop (2 * i)) (by omega)
  rw [List.take_append_drop, front, alone] at parts
  rw [parts, List.getElem?_append_right (by omega), rowCount, Nat.sub_self]
  rfl

theorem sweeps_rows (base : Int) (data : List UInt8) : Sweeps base data (rows base data) where
  bytes := flatMap_bytes_rows base data
  length := length_rows base data
  address := address_rows base data
  pair := by
    intro i inside
    refine ⟨_, rows_getElem? base data i inside, ?_, showsWord_ofWord _ _ _⟩
    exact row?_natCast data (2 * i) base inside
  last := by
    intro i odd
    refine ⟨_, rows_last base data i odd, ?_⟩
    constructor <;> rfl

theorem rows_between (base : Int) (data : List UInt8) (count : Nat) :
    rows base (Sequence.between data 0 (2 * count)) = (rows base data).take count := by
  have stop : (2 * count : Int) = (2 * count : Nat) := by omega
  rw [stop, Sequence.between_zero, rows_take]

/-- The rows of a block are a sweep over it, a block that is cut at an even offset is listed part by
part, the first rows are those of the first bytes, and they are the rows of a summary. -/
theorem linear_sweep (base : Int) (data : List UInt8) :
    Sweeps base data (rows base data) ∧
    (∀ front back : List UInt8, front.length % 2 = 0 →
      rows base (front ++ back) = rows base front ++ rows (base + front.length) back) ∧
    (∀ count : Nat,
      rows base (Sequence.between data 0 (2 * count)) = (rows base data).take count) ∧
    (∀ o : CommandLine.InfoOptions, 0 ≤ o.count →
      o.rows data = (rows Memory.programStart data).take o.count.toNat) := by
  refine ⟨sweeps_rows base data, rows_append base, rows_between base data, ?_⟩
  intro o natural
  have shown := rows_between Memory.programStart data o.count.toNat
  rwa [Int.toNat_of_nonneg natural] at shown

/-- Five bytes are two words and a byte, and the first row is that of the first two bytes. -/
example : (rows 0x200 [0x00, 0xE0, 0x12, 0x00, 0x7F]).map (fun r => (r.address, r.mnemonic)) =
    [(0x200, "CLS"), (0x202, "JP"), (0x204, "DB")] := by
  decide

end Chip8.Listing
