import Chip8.Proofs.Listing.Sweep
import Chip8.Proofs.Text.Lines
import Chip8.Proofs.Text.Spelling

/-!
# The column of bytes

The text of a listing shows the bytes of a block in hexadecimal, in a column between the address and
the instruction.  Where that column stands depends on the address, and the column of a last byte is
half as wide as the others; still it is found by its marks alone, so a block can be read from its
listing.
-/
namespace Chip8.Listing

/-- The column of bytes of a line: what stands after the first colon and the blank that follows it,
up to the next blank. -/
def byteColumn (line : String) : List Char :=
  ((line.toList.dropWhile (· ≠ ':')).drop 2).takeWhile (· ≠ ' ')

/-- The digits in the column of bytes of all lines of a text. -/
def byteColumns (text : String) : List Char := (Text.lines text).flatMap byteColumn

/-! ## The texts that a line is made of -/

theorem unbroken_hex (width : Nat) (n : Int) : Text.Unbroken (Text.hex width n) :=
  Numeral.not_mem_hex width n (by decide) (by decide)

theorem unbroken_hexBytes (bytes : List UInt8) : Text.Unbroken (Text.hexBytes bytes) := by
  apply Text.unbroken_ofList
  exact (Text.allDigits_flatMap bytes).not_mem (by decide)

theorem unbroken_mnemonic (o : Operation) : Text.Unbroken o.mnemonic := by
  cases o <;> exact Text.unbroken_ofList _ (by decide)

theorem unbroken_description (o : Operation) : Text.Unbroken o.description := by
  cases o <;> exact Text.unbroken_ofList _ (by decide)

theorem unbroken_pattern (o : Operation) (p : Operand) (member : p ∈ o.operands) :
    Text.Unbroken p.pattern := by
  have all : ∀ o ∈ Operation.all, ∀ p ∈ o.operands, Text.Unbroken p.pattern := by decide
  exact all o (Operation.mem_all o) p member

theorem unbroken_operandText (w : Opcode) : Text.Unbroken w.operandText := by
  apply Text.unbroken_intercalate
  · decide
  · intro s listed
    obtain ⟨p, member, rfl⟩ := List.mem_map.mp listed
    cases p with
    | registerX | registerY | byte | address | word =>
      simp only [Operand.text, Text.unbroken_append, unbroken_hex, and_true]
      decide
    | height =>
      have digits : ∀ n : Fin 16, Text.Unbroken (toString n.val) := by decide
      exact digits w.n
    | fixed s => exact unbroken_pattern w.operation _ member

/-- An instruction is written on one line. -/
theorem unbroken_assembly (mnemonic operands : String) (front : Text.Unbroken mnemonic)
    (back : Text.Unbroken operands) : Text.Unbroken (assemblyText mnemonic operands) := by
  have blank : Text.Unbroken " " := by decide
  unfold assemblyText
  split <;> simp [front, back, blank]

theorem unbroken_line (described : Bool) (r : Row) : Text.Unbroken (r.line described) := by
  have mnemonic : Text.Unbroken r.mnemonic := by
    cases content : r.content with
    | instruction w => simpa only [Row.mnemonic, content] using unbroken_mnemonic w.operation
    | trailing b => simp only [Row.mnemonic, content]; decide
  have operands : Text.Unbroken r.operands := by
    cases content : r.content with
    | instruction w => simpa only [Row.operands, content] using unbroken_operandText w
    | trailing b =>
      simp only [Row.operands, content, Text.unbroken_append, unbroken_hex, and_true]
      decide
  have description : Text.Unbroken r.description := by
    cases content : r.content with
    | instruction w => simpa only [Row.description, content] using unbroken_description w.operation
    | trailing b => simp only [Row.description, content]; decide
  have marks : Text.Unbroken "$" ∧ Text.Unbroken ": " ∧ Text.Unbroken "  " ∧
      Text.Unbroken "; " := by decide
  have text : Text.Unbroken r.text := by
    simp [Row.text, unbroken_hex, unbroken_hexBytes, unbroken_assembly _ _ mnemonic operands, marks]
  unfold Row.line
  split
  · simp [Row.describedText, text, description, marks]
  · exact text

/-! ## Reading the column -/

/-- The short line begins with its address and the digits of its bytes, and a blank follows them. -/
theorem text_begins (r : Row) :
    ∃ rest, r.text.toList = ('$' :: (Text.hex 3 r.address).toList) ++
      ':' :: ' ' :: (r.bytes.flatMap Text.hexByte ++ ' ' :: rest) := by
  have dollar : "$".toList = ['$'] := rfl
  have colon : ": ".toList = [':', ' '] := rfl
  have gap : "  ".toList = [' ', ' '] := rfl
  have digits : (Text.hexBytes r.bytes).toList = r.bytes.flatMap Text.hexByte := by
    simp [Text.hexBytes]
  -- The column of a last byte is filled with blanks, which stand before the gap.
  have filled : ∀ (k : Nat) (tail : List Char),
      List.replicate k ' ' ++ ' ' :: tail = ' ' :: (List.replicate k ' ' ++ tail) := by
    intro k tail
    rw [List.append_cons, ← List.replicate_succ', List.replicate_succ, List.cons_append]
  refine ⟨List.replicate (4 - 2 * r.bytes.length) ' ' ++
    ' ' :: (assemblyText r.mnemonic r.operands).toList, ?_⟩
  rw [← filled]
  simp [Row.text, Text.padRight, Text.blanks, digits, dollar, colon, gap]

/-- So does the line that is shown, with or without its description. -/
theorem line_begins (described : Bool) (r : Row) :
    ∃ rest, (r.line described).toList = ('$' :: (Text.hex 3 r.address).toList) ++
      ':' :: ' ' :: (r.bytes.flatMap Text.hexByte ++ ' ' :: rest) := by
  obtain ⟨rest, text⟩ := text_begins r
  unfold Row.line
  split
  · refine ⟨rest ++ (Text.blanks (36 - r.text.length) ++ "; " ++ r.description).toList, ?_⟩
    simp [Row.describedText, Text.padRight, text]
  · exact ⟨rest, text⟩

theorem byteColumn_line (described : Bool) (r : Row) :
    byteColumn (r.line described) = r.bytes.flatMap Text.hexByte := by
  obtain ⟨rest, line⟩ := line_begins described r
  have address : ':' ∉ '$' :: (Text.hex 3 r.address).toList := by
    simp [Numeral.not_mem_hex 3 r.address (show ':' ≠ '-' by decide) (by decide)]
  have digits : ' ' ∉ r.bytes.flatMap Text.hexByte :=
    (Text.allDigits_flatMap r.bytes).not_mem (by decide)
  rw [byteColumn, line, List.dropWhile_append_of_pos, List.dropWhile_cons_of_neg (by decide),
    List.drop_succ_cons, List.drop_succ_cons, List.drop_zero, List.takeWhile_append_of_pos,
    List.takeWhile_cons_of_neg (by decide), List.append_nil]
  · intro c member
    simpa using ne_of_mem_of_not_mem member digits
  · intro c member
    simpa using ne_of_mem_of_not_mem member address

/-- The columns of a listing have the digits of the block. -/
theorem byteColumns_lines (described : Bool) (base : Int) (data : List UInt8) :
    byteColumns (Text.unlines (lines described base data)) = data.flatMap Text.hexByte := by
  have whole : ∀ s ∈ lines described base data, Text.Unbroken s := by
    intro s listed
    obtain ⟨r, _, rfl⟩ := List.mem_map.mp listed
    exact unbroken_line described r
  have columns : (lines described base data).flatMap byteColumn = data.flatMap Text.hexByte := by
    rw [lines, List.flatMap_map, ← flatMap_bytes_rows base data, List.flatMap_assoc,
      flatMap_bytes_rows]
    simp only [byteColumn_line]
  rw [byteColumns, Text.lines_unlines _ whole]
  split
  · next none =>
    rw [← columns, none]
    rfl
  · exact columns

/-- The columns of a listing spell the bytes of the block, for any address and with or without
descriptions.  So blocks that have the same listing are the same, even if they stand at different
addresses. -/
theorem listing_determines (described : Bool) (base : Int) (data : List UInt8) :
    Text.spelled? (byteColumns (Text.unlines (lines described base data))) = some data ∧
      ∀ (described' : Bool) (base' : Int) (other : List UInt8),
        Text.unlines (lines described' base' other) = Text.unlines (lines described base data) →
          other = data := by
  have spelled : ∀ (described : Bool) (base : Int) (data : List UInt8),
      Text.spelled? (byteColumns (Text.unlines (lines described base data))) = some data := by
    intro described base data
    rw [byteColumns_lines, Text.spelled?_flatMap]
  refine ⟨spelled described base data, ?_⟩
  intro described' base' other same
  have read := spelled described' base' other
  rw [same, spelled described base data, Option.some.injEq] at read
  exact read.symm

/-- An address may have more characters than others, and a last byte fills half of its column. -/
example : Text.spelled? (byteColumns "$FFFE: 00E0  CLS\n$10000: 7F    DB    $7F") =
    some [0x00, 0xE0, 0x7F] := by
  decide

end Chip8.Listing
