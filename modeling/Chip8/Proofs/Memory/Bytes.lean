import Chip8.Memory

/-!
# Memory byte by byte

`byte?` reads memory one address at a time and has no value outside it.  Accesses to a stretch of
addresses are stated through it: a word is its two bytes, a stretch is refused when one of its bytes
is missing, and a stretch that is not refused has the length that was asked for.  The one exception
is the empty stretch, which is refused beyond the end although it has no byte to miss.
-/
namespace Chip8.Memory

/-- Whether an address is not one of the addresses of memory. -/
def Outside (address : Int) : Prop := address < 0 ∨ 0xFFF < address

instance (address : Int) : Decidable (Outside address) :=
  inferInstanceAs (Decidable (_ ∨ _))

/-- The byte at an address, if memory has one there. -/
def byte? (m : Memory) (address : Int) : Option UInt8 :=
  if h : 0 ≤ address ∧ address < (size : Int) then
    have : address.toNat < size := by omega
    some m.cells[address.toNat]
  else none

/-- The addresses of a stretch of bytes. -/
def stretch (start : Int) (length : Nat) : List Int :=
  (List.range length).map fun (i : Nat) => start + i

theorem byte?_eq_none_iff (m : Memory) (address : Int) :
    m.byte? address = none ↔ Outside address := by
  unfold byte? Outside size
  split <;> simp <;> omega

theorem byte?_within (m : Memory) (address : Int) (b : UInt8) (h : m.byte? address = some b) :
    0 ≤ address ∧ address ≤ 0xFFF := by
  have inside : ¬ Outside address := by
    rw [← byte?_eq_none_iff m]
    simp [h]
  unfold Outside at inside
  omega

theorem byte?_natCast (m : Memory) (i : Nat) : m.byte? i = m.cells.toList[i]? := by
  unfold byte?
  split
  · next inside =>
    rw [List.getElem?_eq_getElem (by rw [Vector.length_toList]; omega)]
    rfl
  · next outside =>
    rw [List.getElem?_eq_none]
    rw [Vector.length_toList]
    omega

theorem mem_stretch (start : Int) (length : Nat) (address : Int) :
    address ∈ stretch start length ↔ start ≤ address ∧ address < start + length := by
  simp only [stretch, List.mem_map, List.mem_range]
  constructor
  · rintro ⟨i, below, rfl⟩
    omega
  · intro bounds
    exact ⟨(address - start).toNat, by omega, by omega⟩

theorem read_eq (m : Memory) (address : Int) :
    m.read address =
      match m.byte? address with
      | some b => .ok b
      | none => .error ⟨address, 1⟩ := by
  unfold read
  split
  · next inside =>
    have within : 0 ≤ address ∧ address < (size : Int) := by omega
    simp only [byte?, dif_pos within]
  · next outside =>
    have without : ¬ (0 ≤ address ∧ address < (size : Int)) := by omega
    simp only [byte?, dif_neg without]

/-- A word is the two bytes from its address on. -/
theorem readPair_eq (m : Memory) (address : Int) :
    m.readPair address =
      match m.byte? address, m.byte? (address + 1) with
      | some high, some low => .ok (high, low)
      | _, _ => .error ⟨address, 2⟩ := by
  unfold readPair
  split
  · next inside =>
    have first : 0 ≤ address ∧ address < (size : Int) := by omega
    have second : 0 ≤ address + 1 ∧ address + 1 < (size : Int) := by omega
    have index : (address + 1).toNat = address.toNat + 1 := by omega
    simp only [byte?, dif_pos first, dif_pos second, index]
  · next outside =>
    by_cases first : 0 ≤ address ∧ address < (size : Int)
    · have second : ¬ (0 ≤ address + 1 ∧ address + 1 < (size : Int)) := by omega
      simp only [byte?, dif_pos first, dif_neg second]
    · simp only [byte?, dif_neg first]

/-- A word is there exactly if its two bytes are. -/
theorem toOption_readPair (m : Memory) (address : Int) :
    (m.readPair address).toOption.map wordOf =
      (m.read address).toOption.bind fun high =>
        (m.read (address + 1)).toOption.map fun low => 256 * high.toNat + low.toNat := by
  rw [readPair_eq, read_eq, read_eq]
  cases m.byte? address with
  | none => rfl
  | some high =>
    cases m.byte? (address + 1) with
    | none => rfl
    | some low =>
      simp only [Except.toOption, Option.map_some, Option.bind_some, wordOf, Nat.mul_comm]

/-- A stretch is within bounds unless it starts below memory or ends beyond it. -/
theorem inBounds_iff_not_beyond (address length : Int) :
    inBounds address length = true ↔ ¬ (address < 0 ∨ (size : Int) < address + length) := by
  simp only [inBounds, Bool.and_eq_true, decide_eq_true_eq]
  omega

theorem inBounds_iff (start length : Nat) :
    inBounds start length = true ↔ start + length ≤ size := by
  simp only [inBounds, Bool.and_eq_true, decide_eq_true_eq]
  omega

/-- A stretch is within bounds unless one of its bytes is missing or it is empty and starts beyond
the end. -/
theorem not_inBounds_iff (start length : Nat) :
    inBounds start length = false ↔
      (∃ a ∈ stretch start length, Outside a) ∨ (length = 0 ∧ 0x1000 < start) := by
  rw [← Bool.not_eq_true, inBounds_iff]
  simp only [mem_stretch, Outside, size]
  constructor
  · intro refused
    by_cases empty : length = 0
    · exact Or.inr ⟨empty, by omega⟩
    · exact Or.inl ⟨start + length - 1, by omega, by omega⟩
  · rintro (⟨a, within, outside⟩ | ⟨empty, beyond⟩) <;> omega

/-- The bytes between two borders, as those of any sequence. -/
theorem between_eq (m : Memory) (start stop : Int) :
    m.between start stop = Sequence.between m.cells.toList start stop := by
  rw [between, Sequence.between, Array.toList_extract, List.extract_eq_take_drop,
    Vector.length_toList, List.drop_take]
  rfl

/-- A stretch that is read ends within memory, and its bytes are cut out of memory. -/
theorem readStretch_success (m : Memory) (start length : Nat) (data : List UInt8)
    (success : m.readStretch start length = .ok data) :
    start + length ≤ size ∧ data = (m.cells.toList.drop start).take length := by
  unfold readStretch at success
  split at success
  · next inside =>
    have bounds := (inBounds_iff start length).mp inside
    cases success
    have stop : ((start : Int) + length) = ((start + length : Nat) : Int) := by omega
    rw [between_eq, stop, Sequence.between, Vector.length_toList,
      Sequence.border_natCast size start (by omega),
      Sequence.border_natCast size (start + length) bounds, List.drop_take, Nat.add_sub_cancel_left]
    exact ⟨bounds, rfl⟩
  · cases success

/-- A stretch that is read has the length that was asked for. -/
theorem length_readStretch (m : Memory) (start length : Nat) (data : List UInt8)
    (success : m.readStretch start length = .ok data) : data.length = length := by
  obtain ⟨bounds, rfl⟩ := m.readStretch_success start length data success
  rw [List.length_take, List.length_drop, Vector.length_toList]
  omega

/-- It has the bytes at its addresses. -/
theorem getElem?_readStretch (m : Memory) (start length : Nat) (data : List UInt8)
    (success : m.readStretch start length = .ok data) (i : Nat) (within : i < length) :
    data[i]? = m.byte? (start + i : Nat) := by
  obtain ⟨_, rfl⟩ := m.readStretch_success start length data success
  rw [List.getElem?_take_of_lt within, List.getElem?_drop, byte?_natCast]

/-- A stretch that is written ends within memory. -/
theorem writeBlock_fits (m after : Memory) (start : Nat) (data : List UInt8)
    (success : m.writeBlock start data = .ok after) : start + data.length ≤ size := by
  unfold writeBlock at success
  split at success
  · next inside =>
    exact (inBounds_iff start data.length).mp inside
  · cases success

/-- The bytes of a memory that was written, those of the data and the others. -/
theorem byte?_writeBlock (m after : Memory) (start : Nat) (data : List UInt8)
    (success : m.writeBlock start data = .ok after) (address : Int) :
    after.byte? address =
      if address ∈ stretch start data.length then data[(address - start).toNat]?
      else m.byte? address := by
  have fits := writeBlock_fits m after start data success
  unfold writeBlock at success
  split at success
  · cases success
    by_cases inside : 0 ≤ address ∧ address < (size : Int)
    · obtain ⟨i, rfl⟩ := Int.eq_ofNat_of_zero_le inside.1
      have offset : ((i : Int) - start).toNat = i - start := by omega
      simp only [byte?, dif_pos inside, Int.toNat_natCast, getElem_store, mem_stretch, offset]
      split
      · next written =>
        rw [if_pos (by omega), List.getElem?_eq_getElem written.2]
      · next other =>
        rw [if_neg (by omega)]
    · have outside : address ∉ stretch start data.length := by
        rw [mem_stretch]
        omega
      simp only [byte?, dif_neg inside, if_neg outside]
  · cases success

/-- Each byte of the data stands at its address. -/
theorem byte?_written {m after : Memory} {start : Nat} {data : List UInt8}
    (success : m.writeBlock start data = .ok after) (i : Nat) (b : UInt8) (byte : data[i]? = some b) :
    after.byte? (start + i : Nat) = some b := by
  obtain ⟨inside, _⟩ := List.getElem?_eq_some_iff.mp byte
  have member : ((start + i : Nat) : Int) ∈ stretch start data.length := by
    rw [mem_stretch]
    omega
  have offset : (((start + i : Nat) : Int) - start).toNat = i := by omega
  rw [byte?_writeBlock _ _ _ _ success, if_pos member, offset, byte]

/-- The bytes of a program that was loaded. -/
theorem byte?_load (m loaded : Memory) (image : List UInt8) (success : m.load image = .ok loaded)
    (i : Nat) (within : i < image.length) :
    loaded.byte? ((programStart + i : Nat) : Int) = some image[i] := by
  unfold load at success
  split at success
  · next fits =>
    cases success
    have bounds : programStart + i < size := by
      simp only [programCapacity, programStart, size] at fits ⊢
      omega
    have inside : 0 ≤ ((programStart + i : Nat) : Int) ∧
        ((programStart + i : Nat) : Int) < (size : Int) := by omega
    have written : programStart ≤ programStart + i ∧ i < image.length := ⟨by omega, within⟩
    simp only [byte?, dif_pos inside, Int.toNat_natCast, getElem_store, Nat.add_sub_cancel_left,
      dif_pos written]
  · cases success

end Chip8.Memory
