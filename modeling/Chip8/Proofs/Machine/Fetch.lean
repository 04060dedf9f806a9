import Chip8.Machine
import Chip8.Proofs.Memory.Bytes
import Chip8.Proofs.Opcode.Digits

/-!
# The word at the program counter

A step fetches two bytes.  Both are in memory or there is no word, and the bytes of an instruction
that waits for a key are known from its register.
-/
namespace Chip8.Machine

/-- The word at the program counter, if both of its bytes are in memory. -/
def fetched? (m : Machine) : Option Opcode :=
  match m.memory.byte? m.registers.pc, m.memory.byte? (m.registers.pc + 1) with
  | some high, some low => some (.ofBytes high low)
  | _, _ => none

/-- The word that the next step is to carry out, if it is to carry one out. -/
def due? (m : Machine) : Option Opcode :=
  if m.fault = none ∧ m.waiting = none then m.fetched? else none

/-- Whether the instruction at the program counter waits for a key in register `x`. -/
def AtWait (m : Machine) (x : Fin 16) : Prop :=
  m.memory.byte? m.registers.pc = some (UInt8.ofNat (0xF0 + x.val)) ∧
  m.memory.byte? (m.registers.pc + 1) = some 0x0A

theorem readPair_eq_fetched (m : Machine) :
    (m.fetched? = none ∧ m.memory.readPair m.registers.pc = .error ⟨m.registers.pc, 2⟩) ∨
    ∃ high low, m.fetched? = some (.ofBytes high low) ∧
      m.memory.readPair m.registers.pc = .ok (high, low) := by
  rw [Memory.readPair_eq]
  unfold fetched?
  cases m.memory.byte? m.registers.pc with
  | none => exact Or.inl ⟨rfl, rfl⟩
  | some high =>
    cases m.memory.byte? (m.registers.pc + 1) with
    | none => exact Or.inl ⟨rfl, rfl⟩
    | some low => exact Or.inr ⟨high, low, rfl, rfl⟩

theorem due_iff (m : Machine) (w : Opcode) :
    m.due? = some w ↔ m.fault = none ∧ m.waiting = none ∧ m.fetched? = some w := by
  rw [due?, Option.ite_none_right_eq_some, and_assoc]

/-- A word that is fetched has both of its bytes in memory. -/
theorem fetched_bytes (m : Machine) (w : Opcode) (fetched : m.fetched? = some w) :
    ∃ high low, m.memory.byte? m.registers.pc = some high ∧
      m.memory.byte? (m.registers.pc + 1) = some low ∧ w = .ofBytes high low := by
  unfold fetched? at fetched
  split at fetched
  · next high low first second =>
    cases fetched
    exact ⟨high, low, first, second, rfl⟩
  · cases fetched

theorem fetched_none_iff (m : Machine) :
    m.fetched? = none ↔ ∃ a ∈ Memory.stretch m.registers.pc 2, Memory.Outside a := by
  have covered : ∀ a, a ∈ Memory.stretch m.registers.pc 2 ↔
      a = m.registers.pc ∨ a = m.registers.pc + 1 := by
    intro a
    rw [Memory.mem_stretch]
    omega
  simp only [covered, exists_eq_or_imp, exists_eq_left, ← Memory.byte?_eq_none_iff m.memory]
  unfold fetched?
  cases m.memory.byte? m.registers.pc <;> cases m.memory.byte? (m.registers.pc + 1) <;> simp

/-- A word of a program that is loaded and has not been left. -/
theorem fetched_image (m : Machine) (memory : Memory) (image : List UInt8)
    (loaded : memory.load image = .ok m.memory) (i : Nat) (within : i + 1 < image.length)
    (counter : m.registers.pc = (Memory.programStart + i : Nat)) :
    m.fetched? = some (.ofBytes image[i] image[i + 1]) := by
  have first : m.memory.byte? m.registers.pc = some image[i] := by
    rw [counter]
    exact Memory.byte?_load _ _ _ loaded i (by omega)
  have second : m.memory.byte? (m.registers.pc + 1) = some image[i + 1] := by
    rw [counter]
    exact Memory.byte?_load _ _ _ loaded (i + 1) within
  simp only [fetched?, first, second]

/-- The first word of such a program. -/
theorem fetched_load (m : Machine) (memory : Memory) (high low : UInt8) (rest : List UInt8)
    (loaded : memory.load (high :: low :: rest) = .ok m.memory)
    (counter : m.registers.pc = Memory.programStart) :
    m.fetched? = some (.ofBytes high low) :=
  fetched_image m memory _ loaded 0 (by simp) counter

/-- The program counter of a word that is fetched. -/
theorem fetched_within (m : Machine) (w : Opcode) (fetched : m.fetched? = some w) :
    0 ≤ m.registers.pc ∧ m.registers.pc ≤ 0xFFE := by
  obtain ⟨high, low, first, second, _⟩ := fetched_bytes m w fetched
  have lower := Memory.byte?_within _ _ _ first
  have upper := Memory.byte?_within _ _ _ second
  omega

/-- The wait for a key, as a word and as two bytes. -/
theorem atWait_iff (m : Machine) (x : Fin 16) :
    m.AtWait x ↔ ∃ w, m.fetched? = some w ∧ w.operation = .awaitKey ∧ w.x = x := by
  have digit := x.isLt
  constructor
  · rintro ⟨first, second⟩
    have high : (UInt8.ofNat (0xF0 + x.val)).toNat = 0xF0 + x.val := by
      rw [UInt8.toNat_ofNat']
      omega
    have value : (Opcode.ofBytes (UInt8.ofNat (0xF0 + x.val)) 0x0A).value =
        (0xF0 + x.val) * 256 + 0x0A := by
      rw [Opcode.value_ofBytes, high]
      rfl
    refine ⟨.ofBytes (UInt8.ofNat (0xF0 + x.val)) 0x0A, ?_, ?_, ?_⟩
    · simp only [fetched?, first, second]
    · rw [Opcode.operation_eq_iff]
      simp only [Operation.Fits, Opcode.family, Opcode.low, value]
      omega
    · simp only [Opcode.x, value, Fin.ext_iff]
      omega
  · rintro ⟨w, fetched, op, rfl⟩
    obtain ⟨high, low, first, second, rfl⟩ := fetched_bytes m w fetched
    rw [Opcode.operation_eq_iff] at op
    simp only [Operation.Fits, Opcode.family, Opcode.low, Opcode.value_ofBytes] at op
    have h := high.toNat_lt
    have l := low.toNat_lt
    rw [AtWait, first, second, Option.some_inj, Option.some_inj, ← UInt8.toNat_inj,
      ← UInt8.toNat_inj, UInt8.toNat_ofNat']
    simp only [Opcode.x, Opcode.value_ofBytes, UInt8.reduceToNat]
    omega

theorem AtWait.within {m : Machine} {x : Fin 16} (parked : m.AtWait x) :
    0 ≤ m.registers.pc ∧ m.registers.pc ≤ 0xFFE := by
  obtain ⟨w, fetched, _⟩ := (atWait_iff m x).mp parked
  exact fetched_within m w fetched

end Chip8.Machine
