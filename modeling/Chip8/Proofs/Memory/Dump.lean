import Chip8.Memory.Dump
import Chip8.Proofs.Memory.Stretches
import Chip8.Proofs.Text.Hexadecimal
import Chip8.Proofs.Text.Lines
import Chip8.Proofs.Text.Spelling
import Mathlib.Data.List.Forall2

/-!
# Reading a dump

Each line of a dump has three fields, found by their places: the address up to the first blank, and
behind it two columns that start equally far from it on every line, also on a last line that is
short.  From the one column the bytes are read, and the other shows each of them as a character.
The rows join to the whole stretch: no byte is lost or repeated where a row ends.
-/
namespace Chip8.Memory

/-! ## The fields of a line -/

/-- The address of a line: what stands before the first blank. -/
def addressField (line : String) : List Char := line.toList.takeWhile (· ≠ ' ')

/-- What stands behind the address. -/
def columns (line : String) : List Char := line.toList.dropWhile (· ≠ ' ')

/-- The column of bytes, between two gaps of two blanks. -/
def byteColumn (line : String) : List Char := ((columns line).drop 2).take 47

/-- The column of characters. -/
def textColumn (line : String) : List Char := (columns line).drop 51

/-- The digits in the column of bytes. -/
def byteDigits (line : String) : List Char := (byteColumn line).filter (· ≠ ' ')

/-- Whether a character stands for a byte: it is that character of ASCII if the byte is printable,
else a point. -/
def StandsFor (b : UInt8) (c : Char) : Prop :=
  if 0x20 ≤ b.toNat ∧ b.toNat ≤ 0x7E then c.toNat = b.toNat else c = '.'

/-- What it means that a line shows the `count` bytes from an address on. -/
structure ShowsRow (m : Memory) (start count : Nat) (line : String) : Prop where
  fields : line.toList = addressField line ++ ' ' :: ' ' :: (byteColumn line ++
    ' ' :: ' ' :: textColumn line)
  width : (byteColumn line).length = 47
  address : addressField line = Text.lowDigits 3 start
  bytes : ∃ row, m.Shows (stretch start count) row ∧
    Text.spelled? (byteDigits line) = some row ∧ List.Forall₂ StandsFor row (textColumn line)

/-- The number of bytes in a row: sixteen, but fewer if the stretch ends before. -/
def rowLength (start stop : Nat) : Nat := min (start + 16) stop - start

/-- What it means that a text shows the bytes from an address up to another, sixteen a line. -/
structure Dumps (m : Memory) (start stop : Nat) (text : String) : Prop where
  empty : stop ≤ start → text = ""
  count : start < stop → (Text.lines text).length = (stop - start + 15) / 16
  row : start < stop → ∀ (i : Nat) (line : String), (Text.lines text)[i]? = some line →
    m.ShowsRow (start + 16 * i) (rowLength (start + 16 * i) stop) line
  whole : ∃ data, m.Shows (stretch start (stop - start)) data ∧
    Text.spelled? ((Text.lines text).flatMap byteDigits) = some data

/-! ## One line -/

/-- The column of bytes of a row, filled with blanks. -/
def filled (row : List UInt8) : List Char :=
  [' '].intercalate (row.map Text.hexByte) ++ List.replicate (47 - (3 * row.length - 1)) ' '

/-- A blank stands between two bytes. -/
theorem length_spaced (row : List UInt8) :
    ([' '].intercalate (row.map Text.hexByte)).length = 3 * row.length - 1 := by
  induction row with
  | nil => rfl
  | cons b rest ih =>
    cases rest with
    | nil => simp
    | cons c rest =>
      simp only [List.map_cons, List.length_cons] at ih
      simp [List.intercalate_cons_cons, ih]
      omega

theorem length_filled (row : List UInt8) (short : row.length ≤ 16) : (filled row).length = 47 := by
  rw [filled, List.length_append, length_spaced, List.length_replicate]
  omega

/-- Without its blanks the column has the digits of the bytes. -/
theorem filter_filled (row : List UInt8) :
    (filled row).filter (· ≠ ' ') = row.flatMap Text.hexByte := by
  have kept : ∀ b, (Text.hexByte b).filter (· ≠ ' ') = Text.hexByte b := by
    intro b
    rw [List.filter_eq_self]
    intro c member
    have blank : ' ' ∉ Text.hexByte b := (Numeral.allDigits_hexByte b).not_mem (by decide)
    simpa using ne_of_mem_of_not_mem member blank
  have spaced : ([' '].intercalate (row.map Text.hexByte)).filter (· ≠ ' ') =
      row.flatMap Text.hexByte := by
    induction row with
    | nil => rfl
    | cons b rest ih =>
      cases rest with
      | nil => simpa using kept b
      | cons c rest =>
        simp only [List.map_cons] at ih
        rw [List.map_cons, List.map_cons, List.intercalate_cons_cons, List.filter_append,
          List.filter_append, ih, kept, List.flatMap_cons]
        simp
  rw [filled, List.filter_append, spaced]
  simp

theorem standsFor_visible (b : UInt8) : StandsFor b (visible b) := by
  have range : (0x20 ≤ b ∧ b < 0x7F) ↔ 0x20 ≤ b.toNat ∧ b.toNat ≤ 0x7E := by
    simp only [UInt8.le_iff_toNat_le, UInt8.lt_iff_toNat_lt, UInt8.reduceToNat]
    omega
  simp only [StandsFor, visible, range]
  split
  · have valid : b.toNat.isValidChar := Or.inl (by omega)
    rw [Char.ofNat, dif_pos valid]
    rfl
  · rfl

theorem visible_ne_break (b : UInt8) : visible b ≠ '\n' := by
  intro same
  have stands := standsFor_visible b
  have code : '\n'.toNat = 10 := rfl
  rw [same, StandsFor, code] at stands
  split at stands
  · omega
  · cases stands

/-- The characters of a line. -/
theorem toList_dumpLine (address : Int) (row : List UInt8) :
    (dumpLine address row).toList = (Text.hex 3 address).toList ++
      ' ' :: ' ' :: (filled row ++ ' ' :: ' ' :: row.map visible) := by
  have blank : " ".toList = [' '] := rfl
  have gap : "  ".toList = [' ', ' '] := rfl
  have spaced : (" ".intercalate (row.map fun b => String.ofList (Text.hexByte b))).toList =
      [' '].intercalate (row.map Text.hexByte) := by
    simp [String.toList_intercalate, blank, Function.comp_def]
  have width := length_spaced row
  rw [← spaced, String.length_toList] at width
  simp [dumpLine, Text.padRight, Text.blanks, filled, gap, spaced, width]

theorem unbroken_dumpLine (address : Int) (row : List UInt8) :
    Text.Unbroken (dumpLine address row) := by
  have number : '\n' ∉ (Text.hex 3 address).toList :=
    Numeral.not_mem_hex 3 address (by decide) (by decide)
  have column : '\n' ∉ filled row := by
    intro member
    have digit : '\n' ∈ (filled row).filter (· ≠ ' ') := by simpa using member
    rw [filter_filled] at digit
    exact (Text.allDigits_flatMap row).not_mem (by decide) digit
  rw [Text.Unbroken, toList_dumpLine]
  simp [number, column, visible_ne_break]

section Fields

variable (address : Int) (row : List UInt8)

/-- The address has no blank, so the first blank is the one behind it. -/
theorem address_kept (c : Char) (member : c ∈ (Text.hex 3 address).toList) : c ≠ ' ' := by
  have blank : ' ' ∉ (Text.hex 3 address).toList :=
    Numeral.not_mem_hex 3 address (by decide) (by decide)
  exact ne_of_mem_of_not_mem member blank

theorem addressField_dumpLine : addressField (dumpLine address row) =
    (Text.hex 3 address).toList := by
  rw [addressField, toList_dumpLine, List.takeWhile_append_of_pos,
    List.takeWhile_cons_of_neg (by decide), List.append_nil]
  simpa using address_kept address

theorem columns_dumpLine : columns (dumpLine address row) =
    ' ' :: ' ' :: (filled row ++ ' ' :: ' ' :: row.map visible) := by
  rw [columns, toList_dumpLine, List.dropWhile_append_of_pos,
    List.dropWhile_cons_of_neg (by decide)]
  simpa using address_kept address

theorem byteColumn_dumpLine (short : row.length ≤ 16) :
    byteColumn (dumpLine address row) = filled row := by
  rw [byteColumn, columns_dumpLine, List.drop_succ_cons, List.drop_succ_cons, List.drop_zero,
    ← length_filled row short, List.take_left]

theorem textColumn_dumpLine (short : row.length ≤ 16) :
    textColumn (dumpLine address row) = row.map visible := by
  rw [textColumn, columns_dumpLine, List.drop_succ_cons, List.drop_succ_cons, List.drop_append,
    length_filled row short, List.drop_of_length_le (by rw [length_filled row short]; decide)]
  rfl

theorem byteDigits_dumpLine (short : row.length ≤ 16) :
    byteDigits (dumpLine address row) = row.flatMap Text.hexByte := by
  rw [byteDigits, byteColumn_dumpLine address row short, filter_filled]

end Fields

theorem showsRow_dumpLine (m : Memory) (start count : Nat) (row : List UInt8)
    (low : start < size) (short : count ≤ 16) (shows : m.Shows (stretch start count) row) :
    m.ShowsRow start count (dumpLine start row) := by
  have length : row.length ≤ 16 := by
    rw [shows.length_eq]
    exact short
  constructor
  · rw [addressField_dumpLine, byteColumn_dumpLine _ _ length, textColumn_dumpLine _ _ length,
      toList_dumpLine]
  · rw [byteColumn_dumpLine _ _ length, length_filled row length]
  · rw [addressField_dumpLine, Text.hex_eq 2 start low, String.toList_ofList]
  · refine ⟨row, shows, ?_, ?_⟩
    · rw [byteDigits_dumpLine _ _ length, Text.spelled?_flatMap]
    · rw [textColumn_dumpLine _ _ length, List.forall₂_map_right_iff, List.forall₂_same]
      intro b _
      exact standsFor_visible b

/-! ## The rows of a stretch -/

theorem stretch_add (start : Int) (count more : Nat) :
    stretch start (count + more) = stretch start count ++ stretch (start + count) more := by
  rw [stretch, List.range_add, List.map_append, List.map_map]
  simp [stretch, Function.comp_def, Int.add_assoc]

theorem Shows.append {m : Memory} {front back : List Int} {first last : List UInt8}
    (before : m.Shows front first) (after : m.Shows back last) :
    m.Shows (front ++ back) (first ++ last) := by
  rw [Shows, List.map_append, List.map_append, before, after]

/-- Rows that follow each other show together what each of them shows. -/
theorem shows_rows (m : Memory) (start stop count : Nat) (rows : Nat → List UInt8)
    (each : ∀ i < count, m.Shows (stretch ((start + 16 * i : Nat) : Int)
      (rowLength (start + 16 * i) stop)) (rows i)) :
    m.Shows (stretch start (min (start + 16 * count) stop - start))
      ((List.range count).flatMap rows) := by
  induction count with
  | zero =>
    have none : min (start + 16 * 0) stop - start = 0 := by omega
    rw [none, stretch_zero]
    rfl
  | succ count ih =>
    have before := ih fun i below => each i (by omega)
    have last := each count (by omega)
    rw [List.range_succ, List.flatMap_append, List.flatMap_singleton]
    unfold rowLength at last
    by_cases further : start + 16 * count < stop
    · -- The rows before are full, so the last one starts where they end.
      have full : min (start + 16 * count) stop - start = 16 * count := by omega
      have sum : min (start + 16 * (count + 1)) stop - start =
          16 * count + (min (start + 16 * count + 16) stop - (start + 16 * count)) := by omega
      have next : ((start + 16 * count : Nat) : Int) = (start : Int) + (16 * count : Nat) := by
        omega
      rw [full] at before
      rw [next] at last
      rw [sum, stretch_add]
      exact before.append last
    · have none : min (start + 16 * count + 16) stop - (start + 16 * count) = 0 := by omega
      have same : min (start + 16 * (count + 1)) stop - start =
          min (start + 16 * count) stop - start := by omega
      rw [none, stretch_zero] at last
      rw [same, ← List.append_nil (stretch _ _)]
      exact before.append last

/-! ## The whole dump -/

/-- The bytes of the row that starts at an address. -/
def rowBytes (m : Memory) (start stop : Nat) : List UInt8 :=
  m.between start ((min (start + 16) stop : Nat) : Int)

theorem shows_rowBytes (m : Memory) (start stop : Nat) (within : stop ≤ size)
    (below : start < stop) : m.Shows (stretch start (rowLength start stop))
      (m.rowBytes start stop) := by
  have shown := m.shows_between start ((min (start + 16) stop : Nat) : Int)
  rwa [Sequence.border_natCast size _ (by omega), Sequence.border_natCast size _ (by omega)]
    at shown

/-- The line of a dump that shows row `i`. -/
def rowLine (m : Memory) (start stop i : Nat) : String :=
  dumpLine ((start + 16 * i : Nat) : Int) (m.rowBytes (start + 16 * i) stop)

theorem showsRow_rowLine (m : Memory) (start stop i : Nat) (within : stop ≤ size)
    (below : start + 16 * i < stop) :
    m.ShowsRow (start + 16 * i) (rowLength (start + 16 * i) stop) (m.rowLine start stop i) := by
  have short : rowLength (start + 16 * i) stop ≤ 16 := by
    unfold rowLength
    omega
  exact m.showsRow_dumpLine _ _ _ (by omega) short (m.shows_rowBytes _ _ within below)

theorem byteDigits_rowLine (m : Memory) (start stop i : Nat) (within : stop ≤ size)
    (below : start + 16 * i < stop) : byteDigits (m.rowLine start stop i) =
      (m.rowBytes (start + 16 * i) stop).flatMap Text.hexByte := by
  have length := (m.shows_rowBytes _ _ within below).length_eq
  unfold rowLength at length
  exact byteDigits_dumpLine _ _ (by omega)

/-- A dump has a line for each sixteen bytes begun. -/
theorem dump_eq (m : Memory) (start length : Nat) :
    m.dump start length =
      (List.range ((min (start + length) size - start + 15) / 16)).map
        (m.rowLine start (min (start + length) size)) := by
  have stop : min ((start : Int) + length) size = ((min (start + length) size : Nat) : Int) := by
    omega
  have count : dumpCount start ((min (start + length) size : Nat) : Int) =
      (min (start + length) size - start + 15) / 16 := by
    unfold dumpCount
    omega
  rw [dump, stop, count]
  apply List.map_congr_left
  intro i _
  have address : (start : Int) + 16 * (i : Int) = ((start + 16 * i : Nat) : Int) := by omega
  have last : min (((start + 16 * i : Nat) : Int) + 16) ((min (start + length) size : Nat) : Int) =
      ((min (start + 16 * i + 16) (min (start + length) size) : Nat) : Int) := by omega
  simp only [address, last, rowLine, rowBytes]

/-- The lines of the text are those of the dump, but no line reads as an empty one. -/
theorem lines_dump (m : Memory) (start stop count : Nat) :
    Text.lines (Text.unlines ((List.range count).map (m.rowLine start stop))) =
      if count = 0 then [""] else (List.range count).map (m.rowLine start stop) := by
  rw [Text.lines_unlines]
  · simp
  · intro s member
    obtain ⟨i, _, rfl⟩ := List.mem_map.mp member
    exact unbroken_dumpLine _ _

/-- The digits of a dump are those of its rows, one row after the other. -/
theorem byteDigits_dump (m : Memory) (start stop count : Nat) (within : stop ≤ size)
    (inside : ∀ i < count, start + 16 * i < stop) :
    (Text.lines (Text.unlines ((List.range count).map (m.rowLine start stop)))).flatMap byteDigits =
      ((List.range count).flatMap fun i => m.rowBytes (start + 16 * i) stop).flatMap
        Text.hexByte := by
  rw [lines_dump]
  split
  · next zero =>
    rw [zero]
    rfl
  · rw [List.flatMap_map, List.flatMap_assoc]
    apply List.flatMap_congr
    intro i member
    exact m.byteDigits_rowLine start stop i within (inside i (List.mem_range.mp member))

/-- The dump of a stretch shows all of it that lies in memory, and nothing if none of it does. -/
theorem dump_faithful (m : Memory) (start length : Nat) :
    m.Dumps start (min (start + length) size) (Text.unlines (m.dump start length)) := by
  have within : min (start + length) size ≤ size := Nat.min_le_right _ _
  rw [dump_eq]
  generalize min (start + length) size = stop at *
  generalize counted : (stop - start + 15) / 16 = count
  have inside : ∀ i < count, start + 16 * i < stop := by omega
  constructor
  · intro none
    have zero : count = 0 := by omega
    rw [zero]
    rfl
  · intro some
    rw [lines_dump, if_neg (by omega), List.length_map, List.length_range, counted]
  · intro some i line shown
    rw [lines_dump, if_neg (by omega), List.getElem?_map] at shown
    obtain ⟨j, place, rfl⟩ := Option.map_eq_some_iff.mp shown
    obtain ⟨below, rfl⟩ := List.getElem?_eq_some_iff.mp place
    rw [List.length_range] at below
    rw [List.getElem_range]
    exact m.showsRow_rowLine start stop i within (inside i below)
  · have shown := m.shows_rows start stop count _ fun i below =>
      m.shows_rowBytes (start + 16 * i) stop within (inside i below)
    have all : min (start + 16 * count) stop - start = stop - start := by omega
    rw [all] at shown
    refine ⟨_, shown, ?_⟩
    rw [byteDigits_dump m start stop count within inside, Text.spelled?_flatMap]

/-- The columns of a last line that is short. -/
example : Text.spelled? (byteDigits
      "FFD  00 E0 41                                         ..A") =
        some [0x00, 0xE0, 0x41] ∧
    textColumn "FFD  00 E0 41                                         ..A" =
      ['.', '.', 'A'] := by
  decide

end Chip8.Memory
