import Chip8.Proofs.Bare.Decoding
import Chip8.Proofs.Machine.Instruction
import Chip8.Proofs.Registers

/-!
# The image of a machine

Every machine has an image on bare integers.  The parts of the machine, run on an image, leave the
image of what the typed machine becomes, with the same values and the same violations: what the
bare machine masks is what a byte or a word cannot hold.
-/
namespace Chip8

/-- Bytes as integers. -/
def integers (data : List UInt8) : List Int := data.map fun b => (b.toNat : Int)

/-- An input source that is asked by integers. -/
def Input.source : Source Input where
  isDown input key := (input.isDown (lowKey key), input)
  poll := Input.poll
  clearEvents := Input.clearEvents

/-- The machine on bare integers.  The image of the program and the breakpoints are left out, which
no step reads. -/
def Machine.bare (m : Machine) : Bare Input where
  v := integers m.registers.v.toList
  index := m.registers.index.toNat
  pc := m.registers.pc
  depth := m.registers.stack.depth
  stack := m.registers.stack.entries.map fun a => (a.toNat : Int)
  memory := integers m.memory.cells.toList
  pixels := m.screen.cells.toList.map fun lit => if lit then 1 else 0
  timers := m.timers
  input := m.input
  random := m.random
  waiting := m.waiting.map fun x => (x.val : Int)
  steps := m.steps
  fault := m.fault
  tracing := m.tracing
  trace := m.trace

namespace Bare

/-- The image of a result whose value is given by a function. -/
def image {α β : Type} (f : α → β) :
    EStateM.Result Violation Machine α → EStateM.Result Failure (Bare Input) β
  | .ok a after => .ok (f a) after.bare
  | .error v left => .error (.violation v) left.bare

/-! ## Sequences -/

theorem item_map {α : Type} (f : α → Int) (xs : List α) (k : Nat) (inside : k < xs.length) :
    item (xs.map f) k = .ok (f xs[k]) := by
  have found : k < (xs.map f).length := by rwa [List.length_map]
  simp only [item, Sequence.position?_natCast, dif_pos found, Fin.getElem_fin, List.getElem_map]

theorem put_map {α : Type} (f : α → Int) (xs : List α) (k : Nat) (a : α) (inside : k < xs.length)
    (byte : 0 ≤ f a ∧ f a < 256) : put (xs.map f) k (f a) = .ok ((xs.set k a).map f) := by
  have found : k < (xs.map f).length := by rwa [List.length_map]
  simp only [put, if_pos byte, Sequence.position?_natCast, dif_pos found, List.map_set]

theorem bytes_integers (data : List UInt8) : bytes (integers data) = .ok (integers data) := by
  have none : (integers data).find? (fun b => ¬ (0 ≤ b ∧ b < 256)) = none := by
    rw [List.find?_eq_none]
    intro b member
    obtain ⟨byte, _, rfl⟩ := List.mem_map.mp member
    simp [byte_range byte]
  simp only [bytes, none]

/-! ## Registers and the call stack -/

section Parts
variable (m : Machine)

theorem getV_run (x : Fin 16) :
    (getV x.val).run m.bare = .ok ((m.registers.get x).toNat : Int) m.bare := by
  have inside : x.val < m.registers.v.toList.length := by simp
  have found : item m.bare.v x.val = .ok ((m.registers.get x).toNat : Int) :=
    item_map _ _ _ inside
  simp only [getV, EStateM.run_bind, EStateM.run_get, found, orSlip, EStateM.run_pure]

theorem putV_run (x : Fin 16) (b : UInt8) :
    (putV x.val b.toNat).run m.bare = .ok () (m.setRegister x b).bare := by
  have inside : x.val < m.registers.v.toList.length := by simp
  have stored : put m.bare.v x.val b.toNat = .ok (m.setRegister x b).bare.v := by
    simp only [Machine.bare, Machine.setRegister, Registers.set, integers, Vector.toList_set]
    exact put_map _ _ _ b inside (byte_range b)
  simp only [putV, EStateM.run_bind, EStateM.run_get, stored, orSlip, EStateM.run_pure,
    EStateM.run_set]
  rfl

theorem setV_run (x : Fin 16) (value : Int) :
    (setV x.val value).run m.bare = .ok () (m.setRegister x (.ofInt value)).bare := by
  rw [setV, ← toNat_ofInt8]
  exact putV_run m x _

theorem setFlag_run (flag : Bool) :
    (setFlag (if flag then 1 else 0)).run m.bare =
      .ok () (m.setRegister Registers.flag (Arithmetic.flagByte flag)).bare := by
  cases flag with
  | false => exact putV_run m Registers.flag 0
  | true => exact putV_run m Registers.flag 1

theorem setIndex_run (value : Int) :
    (setIndex value).run m.bare = .ok () (m.pointTo value).bare := by
  simp only [setIndex, EStateM.run_modify, Machine.pointTo, Registers.setIndex, Machine.bare,
    Opcode.toNat_ofInt16]

theorem push_run (address : Int) :
    (push address).run m.bare = image id ((Machine.pushAddress address).run m) := by
  rw [Machine.pushAddress_run]
  simp only [push, EStateM.run_bind, EStateM.run_get, CallStack.push]
  have size : (m.bare.stack.length : Int) = m.registers.stack.size := by
    simp only [Machine.bare, List.length_map, CallStack.size]
  have depth : m.bare.depth = m.registers.stack.depth := rfl
  rw [size, depth]
  by_cases full : m.registers.stack.depth ≤ m.registers.stack.size
  · rw [if_pos full, if_pos full]
    rfl
  · rw [if_neg full, if_neg full]
    simp only [EStateM.run_set, image, id, Machine.withStack, Machine.bare, List.map_cons,
      Opcode.toNat_ofInt16]

theorem pop_run :
    pop.run m.bare = image (fun address => (address.toNat : Int)) (Machine.popAddress.run m) := by
  rw [Machine.popAddress_run]
  simp only [pop, EStateM.run_bind, EStateM.run_get, CallStack.pop]
  cases entries : m.registers.stack.entries with
  | nil =>
    have empty : m.bare.stack = [] := by simp only [Machine.bare, entries, List.map_nil]
    rw [empty]
    rfl
  | cons address rest =>
    have latest : m.bare.stack = (address.toNat : Int) :: rest.map fun a => (a.toNat : Int) := by
      simp only [Machine.bare, entries, List.map_cons]
    rw [latest]
    rfl

/-! ## Memory -/

theorem check_run (address length : Int) :
    (check address length).run m.bare =
      if Memory.inBounds address length then .ok () m.bare
      else .error (.violation (.memory ⟨address, length⟩)) m.bare := by
  have bounds := Memory.inBounds_iff_not_beyond address length
  unfold check
  split
  · next outside =>
    rw [if_neg (fun inside => bounds.mp inside outside)]
    rfl
  · next inside =>
    rw [if_pos (bounds.mpr inside)]
    rfl

theorem readWord_run (address : Int) :
    (readWord address).run m.bare =
      match m.memory.readPair address with
      | .ok (high, low) => .ok ((Opcode.ofBytes high low).value : Int) m.bare
      | .error e => .error (.violation (.memory e)) m.bare := by
  simp only [readWord, EStateM.run_bind, check_run, Memory.readPair]
  by_cases inside : 0 ≤ address ∧ address + 2 ≤ (Memory.size : Int)
  · have bounds : Memory.inBounds address 2 = true := by
      simp only [Memory.inBounds, Bool.and_eq_true, decide_eq_true_eq]
      exact inside
    obtain ⟨k, rfl⟩ := Int.eq_ofNat_of_zero_le inside.1
    have first : k < m.memory.cells.toList.length := by
      rw [Vector.length_toList]
      omega
    have second : k + 1 < m.memory.cells.toList.length := by
      rw [Vector.length_toList]
      omega
    have high : item m.bare.memory k = .ok (m.memory.cells.toList[k].toNat : Int) :=
      item_map _ _ _ first
    have low : item m.bare.memory (k + 1) = .ok (m.memory.cells.toList[k + 1].toNat : Int) :=
      item_map _ _ (k + 1) second
    rw [if_pos bounds, dif_pos inside]
    simp only [EStateM.run_get, high, low, orSlip, EStateM.run_pure, Opcode.value_ofBytes]
    rfl
  · have bounds : ¬ Memory.inBounds address 2 = true := by
      simp only [Memory.inBounds, Bool.and_eq_true, decide_eq_true_eq]
      exact inside
    rw [if_neg bounds, dif_neg inside]

theorem between_integers (data : List UInt8) (start stop : Int) :
    Sequence.between (integers data) start stop = integers (Sequence.between data start stop) := by
  simp only [Sequence.between, integers, List.length_map, List.map_take, List.map_drop]

theorem readBlock_run (length : Nat) :
    (readBlock m.bare.index length).run m.bare =
      image integers ((Machine.readAtIndex length).run m) := by
  rw [Machine.readAtIndex_run]
  have index : m.bare.index = m.registers.index.toNat := rfl
  simp only [readBlock, EStateM.run_bind, check_run, Memory.readStretch, index]
  by_cases inside : Memory.inBounds m.registers.index.toNat length = true
  · have memory : m.bare.memory = integers m.memory.cells.toList := rfl
    rw [if_pos inside, if_pos inside]
    simp only [EStateM.run_get, memory, between_integers, bytes_integers, Memory.between_eq, orSlip,
      EStateM.run_pure]
    rfl
  · rw [if_neg inside, if_neg inside]
    rfl

/-- Writing one byte and then the bytes after it. -/
theorem take_set_append {α : Type} (xs rest : List α) (start : Nat) (a : α)
    (inside : start < xs.length) :
    (xs.set start a).take (start + 1) ++ rest ++ (xs.set start a).drop (start + 1 + rest.length) =
      xs.take start ++ a :: rest ++ xs.drop (start + (rest.length + 1)) := by
  have written : start < (xs.set start a).length := by rwa [List.length_set]
  rw [← List.take_append_getElem written, List.getElem_set_self, List.take_set_of_le (by omega),
    List.drop_set_of_lt (by omega)]
  have stop : start + 1 + rest.length = start + (rest.length + 1) := by omega
  simp only [stop, List.append_assoc, List.cons_append, List.nil_append]

theorem toList_store (cells : Vector UInt8 Memory.size) (start : Nat) (data : List UInt8)
    (inside : start + data.length ≤ Memory.size) :
    (Memory.store cells start data).toList =
      cells.toList.take start ++ data ++ cells.toList.drop (start + data.length) := by
  induction data generalizing cells start with
  | nil => simp [Memory.store]
  | cons b rest ih =>
    rw [List.length_cons] at inside
    have room : start < cells.toList.length := by
      rw [Vector.length_toList]
      omega
    rw [Memory.store, ih _ _ (by omega), Vector.toList_setIfInBounds, take_set_append _ _ _ _ room]
    rfl

theorem toList_setFrom (v : Vector UInt8 16) (start : Nat) (data : List UInt8)
    (inside : start + data.length ≤ 16) :
    (Registers.setFrom v start data).toList =
      v.toList.take start ++ data ++ v.toList.drop (start + data.length) := by
  induction data generalizing v start with
  | nil => simp [Registers.setFrom]
  | cons b rest ih =>
    rw [List.length_cons] at inside
    have room : start < v.toList.length := by
      rw [Vector.length_toList]
      omega
    rw [Registers.setFrom, ih _ _ (by omega), Vector.toList_setIfInBounds,
      take_set_append _ _ _ _ room]
    rfl

theorem splice_integers (xs data : List UInt8) (start : Nat)
    (inside : start + data.length ≤ xs.length) :
    splice (integers xs) start (start + data.length : Nat) (integers data) =
      integers (xs.take start ++ data ++ xs.drop (start + data.length)) := by
  have first : start ≤ (integers xs).length := by
    simp only [integers, List.length_map]
    omega
  have last : start + data.length ≤ (integers xs).length := by
    simp only [integers, List.length_map]
    omega
  have order : max start (start + data.length) = start + data.length := by omega
  simp only [splice, Sequence.border_natCast _ _ first, Sequence.border_natCast _ _ last, order]
  simp only [integers, List.map_append, List.map_take, List.map_drop]

/-- All items are replaced, however many there are. -/
theorem splice_all (xs data : List Int) : splice xs 0 xs.length data = data := by
  have first : Sequence.border xs.length 0 = 0 := Sequence.border_natCast xs.length 0 (by omega)
  have last : Sequence.border xs.length xs.length = xs.length :=
    Sequence.border_natCast xs.length xs.length (by omega)
  simp [splice, first, last]

theorem writeBlock_run (data : List UInt8) :
    (writeBlock m.bare.index (integers data)).run m.bare =
      image id ((Machine.writeAtIndex data).run m) := by
  rw [Machine.writeAtIndex_run]
  have index : m.bare.index = m.registers.index.toNat := rfl
  have length : ((integers data).length : Int) = data.length := by
    simp only [integers, List.length_map]
  simp only [writeBlock, EStateM.run_bind, bytes_integers, orSlip, EStateM.run_pure, check_run,
    Memory.writeBlock, index, length]
  by_cases inside : Memory.inBounds m.registers.index.toNat data.length = true
  · have within := (Memory.inBounds_iff _ _).mp inside
    have size : m.memory.cells.toList.length = Memory.size := Vector.length_toList
    have spliced := splice_integers m.memory.cells.toList data m.registers.index.toNat
      (by rw [size]; exact within)
    rw [← toList_store _ _ _ within, Int.natCast_add] at spliced
    rw [if_pos inside, if_pos inside]
    simp only [EStateM.run_modify, image, id, Machine.bare, spliced, Int.toNat_natCast]
  · rw [if_neg inside, if_neg inside]
    rfl

/-! ## The screen -/

/-- A pixel of a point as an integer, flipped. -/
theorem turned_pixel (lit : Bool) :
    (if (if lit then 1 else 0 : Int) % 2 = 0 then (if lit then 1 else 0 : Int) + 1
      else (if lit then 1 else 0) - 1) = if !lit then 1 else 0 := by
  cases lit <;> rfl

theorem lit_pixel (lit : Bool) : decide ((if lit then 1 else 0 : Int) ≠ 0) = lit := by
  cases lit <;> rfl

theorem flipPixel_run (hit : Bool) (x y : Int) :
    (flipPixel hit x y).run m.bare =
      .ok (hit || m.screen.lit x y) { m with screen := m.screen.flip x y }.bare := by
  have position : y % 32 * 64 + x % 64 = ((Screen.cell x y).val : Int) := by
    simp only [Screen.cell, Screen.width, Screen.height]
    omega
  have inside : (Screen.cell x y).val < m.screen.cells.toList.length := by simp
  have found : item m.bare.pixels (Screen.cell x y).val =
      .ok (if m.screen.lit x y then 1 else 0) := item_map _ _ _ inside
  have flipped : put m.bare.pixels (Screen.cell x y).val (if !m.screen.lit x y then 1 else 0) =
      .ok { m with screen := m.screen.flip x y }.bare.pixels := by
    simp only [Machine.bare, Screen.flip, Vector.toList_set]
    exact put_map (fun lit => if lit then 1 else 0) _ _ (!m.screen.lit x y) inside
      (by split <;> decide)
  simp only [flipPixel, EStateM.run_bind, EStateM.run_get, position, found, orSlip,
    EStateM.run_pure, turned_pixel, flipped, EStateM.run_set, lit_pixel]
  rfl

theorem flipPixels_run (hit : Bool) (points : List (Int × Int)) :
    (flipPixels hit points).run m.bare =
      .ok (m.screen.flipAll hit points).2
        { m with screen := (m.screen.flipAll hit points).1 }.bare := by
  induction points generalizing hit m with
  | nil => rfl
  | cons p rest ih =>
    obtain ⟨x, y⟩ := p
    simp only [flipPixels, EStateM.run_bind, flipPixel_run, ih, Screen.flipAll]

theorem recorded_bare (line : TraceLine) : m.bare.recorded line = (m.record line).bare := by
  unfold recorded Machine.record
  by_cases tracing : m.tracing = true
  · have traced : m.bare.tracing = true := tracing
    rw [if_pos tracing, if_pos traced]
    rfl
  · have untraced : ¬ m.bare.tracing = true := tracing
    rw [if_neg tracing, if_neg untraced]

theorem record_run (line : TraceLine) :
    (record line).run m.bare = .ok () (m.record line).bare := by
  rw [record, EStateM.run_modify, recorded_bare]

end Parts

end Bare
end Chip8
