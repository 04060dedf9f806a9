import Chip8.Proofs.Bare.Image
import Chip8.Proofs.Memory.Bytes

/-!
# What is stored in memory

Memory is written at any address and with any numbers, it is loaded with programs and with the
glyphs, and it is cleared.  An action that is refused leaves memory as it was.  Of every action it
is said without a memory whether it is refused, and what it stores at an address if it is not: the
byte at an address is what the latest action that was not refused has stored there.
-/
namespace Chip8.Memory

/-- What memory is asked to do; addresses and values may be any integers. -/
inductive Action where
  | write (address value : Int)
  | writeBlock (address : Int) (data : List Int)
  | load (image : List Int)
  | loadFont
  | clear
  deriving DecidableEq, Repr

/-- Why an action is refused. -/
inductive Refusal where
  | bounds (e : BoundsError)
  | image (e : ImageTooLarge)
  | byte (value : Int)
  deriving DecidableEq, Repr

/-- The first of some numbers that is no byte. -/
def strange? (data : List Int) : Option Int := data.find? fun b => ¬ (0 ≤ b ∧ b < 256)

/-- Numbers as bytes, if they are. -/
def toBytes (data : List Int) : Except Refusal (List UInt8) :=
  match strange? data with
  | some value => .error (.byte value)
  | none => .ok (data.map .ofInt)

/-- The memory after an action, unless that is refused. -/
def perform (m : Memory) : Action → Except Refusal Memory
  | .write address value => (m.write address (.ofInt value)).mapError .bounds
  | .writeBlock address data => do
    let data ← toBytes data
    (m.writeBlock address data).mapError .bounds
  | .load image => do
    let image ← toBytes image
    (m.load image).mapError .image
  | .loadFont => .ok m.withFont
  | .clear => .ok .initial

/-- The memory after one action; a refused action changes nothing. -/
def performed (m : Memory) (a : Action) : Memory :=
  match m.perform a with
  | .ok after => after
  | .error _ => m

/-- The memory after several actions. -/
def performAll (m : Memory) (actions : List Action) : Memory := actions.foldl performed m

namespace Action

/-- Why an action is refused, if it is. -/
def refusal? : Action → Option Refusal
  | .write address _ =>
    if 0 ≤ address ∧ address + 1 ≤ 4096 then none else some (.bounds ⟨address, 1⟩)
  | .writeBlock address data =>
    match strange? data with
    | some value => some (.byte value)
    | none =>
      if 0 ≤ address ∧ address + data.length ≤ 4096 then none
      else some (.bounds ⟨address, data.length⟩)
  | .load image =>
    match strange? image with
    | some value => some (.byte value)
    | none => if image.length ≤ 3584 then none else some (.image ⟨image.length⟩)
  | .loadFont | .clear => none

/-- What an action stores at an address, if it does. -/
def stored? (i : Nat) : Action → Option Int
  | .write address value => if address = i then some (value % 256) else none
  | .writeBlock address data => if address ≤ i then data[(i - address).toNat]? else none
  | .load image => if 0x200 ≤ i then image[i - 0x200]? else none
  | .loadFont => (integers font)[i]?
  | .clear => some ((integers font)[i]?.getD 0)

end Action

/-- What the latest of some actions that was not refused and that stored at an address has stored
there, if there was one. -/
def lastStored? (actions : List Action) (i : Nat) : Option Int :=
  (actions.filter fun a => a.refusal?.isNone).reverse.findSome? (·.stored? i)

/-! ## Bytes and numbers -/

theorem strange?_eq_none_iff (data : List Int) :
    strange? data = none ↔ ∀ b ∈ data, 0 ≤ b ∧ b < 256 := by
  simp [strange?, List.find?_eq_none]

/-- Numbers that are bytes are those of the bytes that they become. -/
theorem integers_toBytes (data : List Int) (fine : strange? data = none) :
    integers (data.map .ofInt) = data := by
  rw [strange?_eq_none_iff] at fine
  simp only [integers, List.map_map]
  refine (List.map_congr_left fun b member => ?_).trans (List.map_id data)
  have small := fine b member
  simp only [Function.comp, toNat_ofInt8, id]
  omega

/-- The number in a cell after bytes were stored, that of the byte stored there or the old one. -/
theorem cell_store (cells : Vector UInt8 size) (start : Nat) (data : List UInt8) (i : Nat)
    (inside : i < size) :
    ((store cells start data)[i].toNat : Int) =
      (if start ≤ i then (integers data)[i - start]? else none).getD cells[i].toNat := by
  rw [getElem_store]
  by_cases from_start : start ≤ i
  · rw [if_pos from_start]
    by_cases below : i - start < data.length
    · rw [dif_pos ⟨from_start, below⟩]
      simp [integers, below]
    · rw [dif_neg fun both => below both.2, List.getElem?_eq_none]
      · rfl
      · simpa only [integers, List.length_map, Nat.not_lt] using below
  · rw [dif_neg fun both => from_start both.1, if_neg from_start]
    rfl

theorem read_cell (m : Memory) (i : Nat) (inside : i < size) : m.read i = .ok m.cells[i] := by
  have within : 0 ≤ (i : Int) ∧ (i : Int) + 1 ≤ (size : Int) := by omega
  simp only [read, dif_pos within, Int.toNat_natCast]

/-- The number in a cell when memory is new. -/
theorem cell_initial (i : Nat) (inside : i < size) :
    (initial.cells[i].toNat : Int) = (integers font)[i]?.getD 0 := by
  have blank : ((Vector.replicate size (0 : UInt8))[i].toNat : Int) = 0 := by simp
  rw [← blank]
  exact cell_store _ 0 font i inside

theorem within_iff (address length : Int) :
    inBounds address length = true ↔ 0 ≤ address ∧ address + length ≤ 4096 := by
  simp only [inBounds, Bool.and_eq_true, decide_eq_true_eq]
  rfl

/-! ## One action -/

section Perform
variable (m : Memory)

/-- What an action stores is in the cells, and the other cells are as before. -/
def Stores (a : Action) (after : Memory) : Prop :=
  ∀ i, (inside : i < size) →
    (after.cells[i].toNat : Int) = (a.stored? i).getD m.cells[i].toNat

/-- An action is refused for the reason that it has, or is carried out. -/
def Answers (a : Action) : Prop :=
  (∃ r, a.refusal? = some r ∧ m.perform a = .error r) ∨
    (a.refusal? = none ∧ ∃ after, m.perform a = .ok after ∧ m.Stores a after)

theorem answers_write (address value : Int) : m.Answers (.write address value) := by
  by_cases within : 0 ≤ address ∧ address + 1 ≤ 4096
  · obtain ⟨start, rfl⟩ := Int.eq_ofNat_of_zero_le within.1
    refine .inr ⟨?_, ⟨store m.cells start [.ofInt value]⟩, ?_, fun i inside => ?_⟩
    · simp only [Action.refusal?, if_pos within]
    · simp only [perform, write, if_pos ((within_iff start 1).mpr within)]
      rfl
    · rw [cell_store _ _ _ _ inside]
      simp only [Action.stored?, integers, List.map_cons, List.map_nil, toNat_ofInt8]
      by_cases here : start = i
      · subst here
        simp
      · have elsewhere : ¬ (start : Int) = i := by omega
        rw [if_neg elsewhere]
        split
        · rw [List.getElem?_eq_none]
          rw [List.length_singleton]
          omega
        · rfl
  · refine .inl ⟨.bounds ⟨address, 1⟩, ?_, ?_⟩
    · simp only [Action.refusal?, if_neg within]
    · simp only [perform, write, if_neg (mt (within_iff _ _).mp within)]
      rfl

theorem answers_writeBlock (address : Int) (data : List Int) :
    m.Answers (.writeBlock address data) := by
  cases strange : strange? data with
  | some value =>
    refine .inl ⟨.byte value, ?_, ?_⟩
    · simp only [Action.refusal?, strange]
    · simp only [perform, toBytes, strange]
      rfl
  | none =>
    by_cases within : 0 ≤ address ∧ address + data.length ≤ 4096
    · obtain ⟨start, rfl⟩ := Int.eq_ofNat_of_zero_le within.1
      refine .inr ⟨?_, ⟨store m.cells start (data.map .ofInt)⟩, ?_, fun i inside => ?_⟩
      · simp only [Action.refusal?, strange, if_pos within]
      · simp only [perform, toBytes, strange, bind, Except.bind, writeBlock, List.length_map,
          if_pos ((within_iff _ _).mpr within)]
        rfl
      · rw [cell_store _ _ _ _ inside, integers_toBytes data strange]
        simp only [Action.stored?, Int.ofNat_le, Int.toNat_sub]
    · refine .inl ⟨.bounds ⟨address, data.length⟩, ?_, ?_⟩
      · simp only [Action.refusal?, strange, if_neg within]
      · simp only [perform, toBytes, strange, bind, Except.bind, writeBlock, List.length_map,
          if_neg (mt (within_iff _ _).mp within)]
        rfl

theorem answers_load (image : List Int) : m.Answers (.load image) := by
  cases strange : strange? image with
  | some value =>
    refine .inl ⟨.byte value, ?_, ?_⟩
    · simp only [Action.refusal?, strange]
    · simp only [perform, toBytes, strange]
      rfl
  | none =>
    by_cases small : image.length ≤ programCapacity
    · refine .inr ⟨?_, ⟨store m.cells programStart (image.map .ofInt)⟩, ?_, fun i inside => ?_⟩
      · simp only [Action.refusal?, strange]
        exact if_pos small
      · simp only [perform, toBytes, strange, bind, Except.bind, load, List.length_map,
          if_pos small]
        rfl
      · rw [cell_store _ _ _ _ inside, integers_toBytes image strange]
        rfl
    · refine .inl ⟨.image ⟨image.length⟩, ?_, ?_⟩
      · simp only [Action.refusal?, strange]
        exact if_neg small
      · simp only [perform, toBytes, strange, bind, Except.bind, load, List.length_map,
          if_neg small]
        rfl

theorem answers (a : Action) : m.Answers a := by
  cases a with
  | write address value => exact m.answers_write address value
  | writeBlock address data => exact m.answers_writeBlock address data
  | load image => exact m.answers_load image
  | loadFont => exact .inr ⟨rfl, m.withFont, rfl, cell_store m.cells 0 font⟩
  | clear => exact .inr ⟨rfl, initial, rfl, cell_initial⟩

/-- What is read where an action stores nothing is as before. -/
theorem Stores.read_other {m after : Memory} {a : Action} (stores : m.Stores a after)
    (address : Int) (other : ∀ i : Nat, (i : Int) = address → a.stored? i = none) :
    after.read address = m.read address := by
  by_cases inside : 0 ≤ address ∧ address + 1 ≤ (size : Int)
  · obtain ⟨i, rfl⟩ := Int.eq_ofNat_of_zero_le inside.1
    have within : i < size := by omega
    have cell := stores i within
    rw [other i rfl, Option.getD_none, Int.natCast_inj, UInt8.toNat_inj] at cell
    rw [read_cell _ i within, read_cell _ i within, cell]
  · rw [read, read, dif_neg inside, dif_neg inside]

/-- A program that fits is loaded, and no byte but its own changes. -/
theorem perform_load (program : List UInt8) (small : program.length ≤ 3584) :
    ∃ after, m.perform (.load (integers program)) = .ok after ∧
      ∀ address : Int, address < 0x200 ∨ 0x200 + program.length ≤ address →
        after.read address = m.read address := by
  have length : (integers program).length = program.length := List.length_map _
  obtain ⟨r, refused, _⟩ | ⟨_, after, carried, stores⟩ := m.answers (.load (integers program))
  · have fine : strange? (integers program) = none := by
      rw [strange?_eq_none_iff]
      rintro _ member
      obtain ⟨b, _, rfl⟩ := List.mem_map.mp member
      exact byte_range b
    simp only [Action.refusal?, fine, length, if_pos small] at refused
    cases refused
  · refine ⟨after, carried, fun address other => stores.read_other address ?_⟩
    rintro i rfl
    simp only [Action.stored?]
    split
    · rw [List.getElem?_eq_none]
      rw [length]
      omega
    · rfl

end Perform

/-! ## Several actions -/

theorem lastStored?_cons (a : Action) (rest : List Action) (i : Nat) :
    lastStored? (a :: rest) i =
      (lastStored? rest i).or (if a.refusal? = none then a.stored? i else none) := by
  cases reason : a.refusal? with
  | none => simp [lastStored?, reason, List.findSome?_append]
  | some r => simp [lastStored?, reason]

/-- The number in a cell is what was stored there last, or as it was. -/
theorem cell_performAll (m : Memory) (actions : List Action) (i : Nat) (inside : i < size) :
    ((m.performAll actions).cells[i].toNat : Int) =
      (lastStored? actions i).getD m.cells[i].toNat := by
  induction actions generalizing m with
  | nil => rfl
  | cons a rest ih =>
    have first : ((m.performed a).cells[i].toNat : Int) =
        (if a.refusal? = none then a.stored? i else none).getD m.cells[i].toNat := by
      obtain ⟨r, refused, error⟩ | ⟨accepted, after, carried, stores⟩ := m.answers a
      · simp [performed, refused, error]
      · simp [performed, accepted, carried, stores i inside]
    rw [lastStored?_cons, Option.getD_or, ← first]
    exact ih (m.performed a)

/-- The last of these actions is refused, and the program lies over the end of the block. -/
example : lastStored? [.writeBlock 0x1FF [1, 2, 3], .load [7], .write 0x1000 1] 0x200 = some 7 := by
  decide

end Chip8.Memory
