import Chip8.Proofs.Memory.Bytes

/-!
# Stretches that are read

A stretch is asked for by its start and its length, or by its first and its last address.  What is
answered are the bytes between two borders.  Those are the bytes that were asked for, none if the
length is not positive, unless the stretch ends before the start of memory: its end is then counted
from the end of memory, and bytes are answered that nobody asked for.  A stretch that is refused is
refused for its bounds, unless its length has too many digits to be told.
-/
namespace Chip8.Memory

/-- Whether some bytes are those at some addresses, in their order. -/
def Shows (m : Memory) (addresses : List Int) (data : List UInt8) : Prop :=
  data.map some = addresses.map m.byte?

/-- Whether an access answers the bytes at some addresses, or is refused for its bounds. -/
def ShowsOrRefuses (m : Memory) (addresses : List Int)
    (result : Except AccessError (List UInt8)) : Prop :=
  match result with
  | .ok data => m.Shows addresses data
  | .error (.bounds _) => True
  | .error .unwritable => False

/-- Whether a stretch starts before memory or ends beyond it. -/
def Beyond (address length : Int) : Prop := address < 0 ∨ size < address + length

/-- Whether a stretch that starts in memory ends before it, so that bytes remain up to the place its
end has when it is counted from the end of memory. -/
def Wraps (address length : Int) : Prop :=
  0 ≤ address ∧ address + length < 0 ∧ -(size : Int) < length

instance (address length : Int) : Decidable (Wraps address length) :=
  inferInstanceAs (Decidable (_ ∧ _))

/-- The number of bytes that are answered for a stretch. -/
def shownLength (address length : Int) : Nat :=
  if address + length < 0 then (size + length).toNat else length.toNat

theorem stretch_zero (start : Int) : stretch start 0 = [] := by
  rw [stretch, List.range_zero, List.map_nil]

theorem Shows.length_eq {m : Memory} {start : Int} {length : Nat} {data : List UInt8}
    (shows : m.Shows (stretch start length) data) : data.length = length := by
  have sizes := congrArg List.length shows
  simpa only [stretch, List.length_map, List.length_range] using sizes

/-- The bytes between two borders are those from the one address up to the other. -/
theorem shows_between (m : Memory) (start stop : Int) :
    m.Shows (stretch (Sequence.border size start)
      (Sequence.border size stop - Sequence.border size start)) (m.between start stop) := by
  have within := Sequence.border_le size stop
  rw [Shows, between_eq, Sequence.between, Vector.length_toList, List.drop_take, stretch,
    List.map_map]
  generalize Sequence.border size start = first at *
  generalize Sequence.border size stop = last at *
  apply List.ext_getElem?
  intro i
  by_cases shown : i < last - first
  · have inside : first + i < m.cells.toList.length := by
      rw [Vector.length_toList]
      omega
    rw [List.getElem?_map, List.getElem?_take_of_lt shown, List.getElem?_drop, List.getElem?_map,
      List.getElem?_range shown, Option.map_some, Function.comp, ← Int.natCast_add, byte?_natCast,
      List.getElem?_eq_getElem inside, Option.map_some]
  · rw [List.getElem?_eq_none, List.getElem?_eq_none]
    · rw [List.length_map, List.length_range]
      omega
    · rw [List.length_map, List.length_take]
      omega

/-- The bytes that are answered for a stretch within bounds. -/
theorem shows_stretch (m : Memory) (address length : Int) (starts : 0 ≤ address)
    (ends : address + length ≤ size) :
    m.Shows (stretch address (shownLength address length))
      (m.between address (address + length)) := by
  have shown := m.shows_between address (address + length)
  have count : Sequence.border size (address + length) - Sequence.border size address =
      shownLength address length := by
    unfold Sequence.border shownLength size at *
    split <;> split <;> omega
  rw [count] at shown
  by_cases start : address ≤ size
  · have first : (Sequence.border size address : Int) = address := by
      unfold Sequence.border
      split <;> omega
    rwa [first] at shown
  · -- Such a stretch is empty, wherever it is said to start.
    have empty : shownLength address length = 0 := by
      unfold shownLength
      split <;> omega
    rwa [empty, stretch_zero] at shown ⊢

/-- What it means that an access reads a stretch: it is refused if the stretch starts before memory
or ends beyond it, else it answers the bytes from its start on.  Those are the bytes that were asked
for, unless the stretch wraps; and what is refused is refused for its bounds, unless the length of
the stretch is too long to be told. -/
structure ReadsStretch (m : Memory) (address length : Int)
    (result : Except AccessError (List UInt8)) : Prop where
  refused : Beyond address length → Numeral.writable length = true →
    result = .error (.bounds ⟨address, length⟩)
  untold : Beyond address length → Numeral.writable length = false → result = .error .unwritable
  answered : 0 ≤ address → address + length ≤ size →
    ∃ data, result = .ok data ∧ m.Shows (stretch address (shownLength address length)) data
  asked_iff : m.ShowsOrRefuses (stretch address length.toNat) result ↔
    ¬ Wraps address length ∧ (Beyond address length → Numeral.writable length = true)

theorem not_beyond_iff (address length : Int) :
    ¬ Beyond address length ↔ 0 ≤ address ∧ address + length ≤ size := by
  unfold Beyond
  omega

theorem readBlock_beyond (m : Memory) (address length : Int) (beyond : Beyond address length) :
    m.readBlock address length = .error (BoundsError.told ⟨address, length⟩) := by
  have outside : ¬ inBounds address length = true := by
    rw [inBounds_iff_not_beyond]
    exact not_not_intro beyond
  rw [readBlock, readStretch, if_neg outside]
  rfl

theorem readBlock_within (m : Memory) (address length : Int) (starts : 0 ≤ address)
    (ends : address + length ≤ size) :
    m.readBlock address length = .ok (m.between address (address + length)) := by
  have inside : inBounds address length = true := by
    rw [inBounds_iff_not_beyond]
    omega
  rw [readBlock, readStretch, if_pos inside]
  rfl

/-- The bytes that are answered are those that were asked for unless the stretch wraps. -/
theorem shows_asked_iff (m : Memory) (address length : Int) (starts : 0 ≤ address)
    (ends : address + length ≤ size) :
    m.Shows (stretch address length.toNat) (m.between address (address + length)) ↔
      ¬ Wraps address length := by
  have shown := m.shows_stretch address length starts ends
  constructor
  · intro asked wraps
    obtain ⟨_, before, short⟩ := wraps
    have few := asked.length_eq
    have many := shown.length_eq
    unfold shownLength at many
    split at many <;> omega
  · intro straight
    have same : shownLength address length = length.toNat := by
      unfold shownLength Wraps at *
      split <;> omega
    rwa [same] at shown

theorem readsStretch_readBlock (m : Memory) (address length : Int) :
    m.ReadsStretch address length (m.readBlock address length) := by
  constructor
  case refused =>
    intro beyond told
    rw [m.readBlock_beyond address length beyond, BoundsError.told, if_pos told]
  case untold =>
    intro beyond long
    rw [m.readBlock_beyond address length beyond, BoundsError.told, if_neg (by rw [long]; decide)]
  case answered =>
    intro starts ends
    exact ⟨_, m.readBlock_within address length starts ends,
      m.shows_stretch address length starts ends⟩
  case asked_iff =>
    by_cases beyond : Beyond address length
    · have straight : ¬ Wraps address length := by
        unfold Beyond Wraps at *
        omega
      rw [m.readBlock_beyond address length beyond, BoundsError.told]
      cases told : Numeral.writable length <;> simp [ShowsOrRefuses, beyond, straight]
    · obtain ⟨starts, ends⟩ := (not_beyond_iff address length).mp beyond
      rw [m.readBlock_within address length starts ends, ShowsOrRefuses,
        m.shows_asked_iff address length starts ends]
      exact ⟨fun straight => ⟨straight, fun outside => absurd outside beyond⟩, And.left⟩

/-- Instructions read at most sixteen bytes, and so few can be told. -/
theorem readBlock_few (m : Memory) (address : Int) (length : Nat) (few : length ≤ 16) :
    m.readBlock address length = (m.readStretch address length).mapError .bounds := by
  have writable : ∀ n : Fin 17, Numeral.writable n.val = true := by decide
  have told : BoundsError.told ⟨address, length⟩ = .bounds ⟨address, length⟩ :=
    if_pos (writable ⟨length, by omega⟩)
  unfold readBlock readStretch
  split
  · rfl
  · exact congrArg Except.error told

/-- The bytes between two addresses are a stretch. -/
theorem snapshot_eq_readBlock (m : Memory) (first last : Int) :
    m.snapshot first last = m.readBlock first (last - first + 1) := by
  have stop : first + (last - first + 1) = last + 1 := by omega
  rw [snapshot, readBlock, readStretch, stop]
  split <;> rfl

/-- Both ways of asking for a stretch of memory read it. -/
theorem stretches_read (m : Memory) (address length first last : Int) :
    m.ReadsStretch address length (m.readBlock address length) ∧
      m.ReadsStretch first (last - first + 1) (m.snapshot first last) := by
  rw [snapshot_eq_readBlock]
  exact ⟨m.readsStretch_readBlock address length, m.readsStretch_readBlock first _⟩

/-- A stretch that ends one byte before its start at the bottom of memory, and the same one by its
addresses, are answered with bytes although none was asked for. -/
theorem emptyStretch_wraps :
    ¬ initial.ShowsOrRefuses (stretch 0 (-1 : Int).toNat) (initial.readBlock 0 (-1)) ∧
      ¬ initial.ShowsOrRefuses (stretch 0 (-2 - 0 + 1 : Int).toNat) (initial.snapshot 0 (-2)) := by
  rw [snapshot_eq_readBlock, (initial.readsStretch_readBlock 0 (-1)).asked_iff,
    (initial.readsStretch_readBlock 0 (-2 - 0 + 1)).asked_iff]
  have wraps : Wraps 0 (-1) ∧ Wraps 0 (-2 - 0 + 1) := by decide
  exact ⟨fun straight => straight.1 wraps.1, fun straight => straight.1 wraps.2⟩

end Chip8.Memory
