import Chip8.Machine.Execute
import Chip8.Proofs.Memory.Bytes

/-!
# What one instruction does

An instruction is broken off exactly when there is an obstacle to it: a call with a full stack, a
return with an empty one, or a block at the index register that does not lie within memory.  The
obstacle is met before anything is written, so the machine is left as it was.  An instruction that
is not broken off has one of five flows of control.
-/
namespace Chip8.Machine

/-- The number of bytes at the index register that an instruction accesses, if it accesses any. -/
def blockLength? (w : Opcode) : Option Nat :=
  match w.operation with
  | .draw => some w.n.val
  | .storeDecimal => some 3
  | .storeRegisters | .loadRegisters => some (w.x.val + 1)
  | _ => none

/-- What keeps an instruction from being carried out. -/
inductive Obstacle (m : Machine) (w : Opcode) : Violation → Prop where
  | full (op : w.operation = .call) (depth : m.registers.stack.depth ≤ m.registers.stack.size) :
    Obstacle m w (.stack (.overflow m.registers.stack.depth))
  | empty (op : w.operation = .ret) (none : m.registers.stack.entries = []) :
    Obstacle m w (.stack .underflow)
  | block (length : Nat) (accessed : blockLength? w = some length)
    (outside : Memory.inBounds m.registers.index.toNat length = false) :
    Obstacle m w (.memory ⟨m.registers.index.toNat, length⟩)

/-- The machine with a sprite drawn at the point that two registers name, and its flag set. -/
def withSprite (m : Machine) (x y : Fin 16) (rows : List UInt8) : Machine :=
  let drawn := m.screen.draw (m.registers.get x).toNat (m.registers.get y).toNat
    (rows.map fun b => (b.toNat : Int))
  { m with screen := drawn.1 }.setRegister Registers.flag (Arithmetic.flagByte drawn.2)

/-- The machine with bytes in its registers from the first one on. -/
def withRegisters (m : Machine) (data : List UInt8) : Machine :=
  { m with registers := { m.registers with v := Registers.setFrom m.registers.v 0 data } }

/-- The five flows of control of an instruction that is carried out. -/
inductive Flow (m : Machine) (w : Opcode) (after : Machine) : Prop where
  | forward (count : Int) (counts : count = 1 ∨ count = 2)
    (pc : after.registers.pc = (m.registers.advance count).pc)
    (stack : after.registers.stack = m.registers.stack)
    (input : after.input = m.input)
    (waiting : after.waiting = m.waiting)
    (fault : after.fault = m.fault)
  | jumped (address : Int)
    (target : address = w.nnn ∨
      address = ((w.nnn : Int) + m.registers.offset.toNat) % 65536)
    (moved : after = m.jump address)
  | called (stack : CallStack)
    (pushed : m.registers.stack.push (m.registers.pc + 2) = .ok stack)
    (moved : after = (m.withStack stack).jump w.nnn)
  | returned (address : UInt16) (stack : CallStack)
    (popped : m.registers.stack.pop = .ok (address, stack))
    (moved : after = (m.withStack stack).jump address.toNat)
  | parked (op : w.operation = .awaitKey) (moved : after = m.awaitKey w.x)

/-! Running one effect after another.  The first one is a variable here, because the program of a
handler must not be evaluated where two of its runs are compared. -/

theorem run_bind_error {ε σ α β : Type} {e : EStateM ε σ α} {f : α → EStateM ε σ β} {m left : σ}
    {v : ε} (broken : e.run m = .error v left) : (e >>= f).run m = .error v left := by
  rw [EStateM.run_bind, broken]

theorem run_bind_ok {ε σ α β : Type} {e : EStateM ε σ α} {f : α → EStateM ε σ β} {m after : σ}
    {a : α} (done : e.run m = .ok a after) : (e >>= f).run m = (f a).run after := by
  rw [EStateM.run_bind, done]

section Accesses
variable (m : Machine)

theorem pushAddress_run (address : Int) :
    (pushAddress address).run m =
      match m.registers.stack.push address with
      | .ok stack => .ok () (m.withStack stack)
      | .error e => .error (.stack e) m := by
  simp only [pushAddress, EStateM.run_bind, EStateM.run_get]
  cases m.registers.stack.push address <;> rfl

theorem popAddress_run :
    popAddress.run m =
      match m.registers.stack.pop with
      | .ok (address, stack) => .ok address (m.withStack stack)
      | .error e => .error (.stack e) m := by
  simp only [popAddress, EStateM.run_bind, EStateM.run_get]
  cases m.registers.stack.pop <;> rfl

theorem readAtIndex_run (length : Nat) :
    (readAtIndex length).run m =
      match m.memory.readStretch m.registers.index.toNat length with
      | .ok data => .ok data m
      | .error e => .error (.memory e) m := by
  simp only [readAtIndex, EStateM.run_bind, EStateM.run_get]
  cases m.memory.readStretch m.registers.index.toNat length <;> rfl

theorem writeAtIndex_run (data : List UInt8) :
    (writeAtIndex data).run m =
      match m.memory.writeBlock m.registers.index.toNat data with
      | .ok memory => .ok () { m with memory }
      | .error e => .error (.memory e) m := by
  simp only [writeAtIndex, EStateM.run_bind, EStateM.run_get]
  cases m.memory.writeBlock m.registers.index.toNat data <;> rfl

theorem readAtIndex_refused (length : Nat)
    (outside : Memory.inBounds m.registers.index.toNat length = false) :
    (readAtIndex length).run m = .error (.memory ⟨m.registers.index.toNat, length⟩) m := by
  have refused : ¬ Memory.inBounds m.registers.index.toNat length = true := by simp [outside]
  simp only [readAtIndex_run, Memory.readStretch, if_neg refused]

theorem writeAtIndex_refused (data : List UInt8) (length : Nat) (size : data.length = length)
    (outside : Memory.inBounds m.registers.index.toNat length = false) :
    (writeAtIndex data).run m = .error (.memory ⟨m.registers.index.toNat, length⟩) m := by
  subst size
  have refused : ¬ Memory.inBounds m.registers.index.toNat data.length = true := by simp [outside]
  simp only [writeAtIndex_run, Memory.writeBlock, if_neg refused]

theorem readAtIndex_success (length : Nat)
    (inside : Memory.inBounds m.registers.index.toNat length = true) :
    ∃ data, (readAtIndex length).run m = .ok data m := by
  simp only [readAtIndex_run, Memory.readStretch, if_pos inside]
  exact ⟨_, rfl⟩

theorem readAtIndex_ok {length : Nat} {data : List UInt8} {after : Machine}
    (read : (readAtIndex length).run m = .ok data after) :
    m.memory.readStretch m.registers.index.toNat length = .ok data ∧ after = m := by
  rw [readAtIndex_run] at read
  split at read
  · next found =>
    cases read
    exact ⟨found, rfl⟩
  · cases read

theorem writeAtIndex_success (data : List UInt8) (length : Nat) (size : data.length = length)
    (inside : Memory.inBounds m.registers.index.toNat length = true) :
    ∃ memory, (writeAtIndex data).run m = .ok () { m with memory } := by
  subst size
  simp only [writeAtIndex_run, Memory.writeBlock, if_pos inside]
  exact ⟨_, rfl⟩

end Accesses

@[simp] theorem length_upTo (r : Registers) (x : Fin 16) : (r.upTo x).length = x.val + 1 := by
  have := x.isLt
  simp only [Registers.upTo, List.length_take, Vector.length_toList]
  omega

/-! The instructions that may meet an obstacle, as their handlers. -/

section Handlers
variable (m : Machine) (w : Opcode)

theorem execute_call (op : w.operation = .call) :
    (execute w).run m = (pushAddress (m.registers.pc + 2) >>=
      fun _ => modify (·.jump w.nnn)).run m := by
  unfold execute
  rw [EStateM.run_bind, EStateM.run_get, op]
  exact run_bind_ok (EStateM.run_get m)

theorem execute_ret (op : w.operation = .ret) :
    (execute w).run m = (popAddress >>= fun address => modify (·.jump address.toNat)).run m := by
  unfold execute
  rw [EStateM.run_bind, EStateM.run_get, op]
  rfl

theorem execute_draw (op : w.operation = .draw) :
    (execute w).run m = (drawSprite w.x w.y w.n >>= fun _ => modify next).run m := by
  unfold execute
  rw [EStateM.run_bind, EStateM.run_get, op]

theorem execute_storeDecimal (op : w.operation = .storeDecimal) :
    (execute w).run m = (writeAtIndex (Arithmetic.decimalDigits (m.registers.get w.x)) >>=
      fun _ => modify next).run m := by
  unfold execute
  rw [EStateM.run_bind, EStateM.run_get, op]

theorem execute_storeRegisters (op : w.operation = .storeRegisters) :
    (execute w).run m = (writeAtIndex (m.registers.upTo w.x) >>= fun _ => modify next).run m := by
  unfold execute
  rw [EStateM.run_bind, EStateM.run_get, op]

theorem execute_loadRegisters (op : w.operation = .loadRegisters) :
    (execute w).run m = (loadFromIndex w.x >>= fun _ => modify next).run m := by
  unfold execute
  rw [EStateM.run_bind, EStateM.run_get, op]

end Handlers

/-- The instructions with a block at the index register. -/
theorem blockLength?_cases (w : Opcode) (length : Nat) (accessed : blockLength? w = some length) :
    (w.operation = .draw ∧ length = w.n.val) ∨ (w.operation = .storeDecimal ∧ length = 3) ∨
    (w.operation = .storeRegisters ∧ length = w.x.val + 1) ∨
    (w.operation = .loadRegisters ∧ length = w.x.val + 1) := by
  unfold blockLength? at accessed
  split at accessed <;> simp_all

/-- The operations that may meet an obstacle. -/
theorem obstacle_operation (m : Machine) (w : Opcode) (v : Violation) (obstacle : Obstacle m w v) :
    w.operation ∈ [.call, .ret, .draw, .storeDecimal, .storeRegisters, .loadRegisters] := by
  cases obstacle with
  | full op _ => simp [op]
  | empty op _ => simp [op]
  | block length accessed _ =>
    rcases blockLength?_cases w length accessed with ⟨op, _⟩ | ⟨op, _⟩ | ⟨op, _⟩ | ⟨op, _⟩ <;>
    · simp [op]

/-- An obstacle breaks the instruction off and leaves the machine as it was. -/
theorem execute_refused (m : Machine) (w : Opcode) (v : Violation) (obstacle : Obstacle m w v) :
    (execute w).run m = .error v m := by
  cases obstacle with
  | full op depth =>
    have refused : (pushAddress (m.registers.pc + 2)).run m =
        .error (.stack (.overflow m.registers.stack.depth)) m := by
      rw [pushAddress_run, CallStack.push, if_pos depth]
    rw [execute_call m w op]
    exact run_bind_error refused
  | empty op none =>
    have refused : popAddress.run m = .error (.stack .underflow) m := by
      rw [popAddress_run, CallStack.pop, none]
    rw [execute_ret m w op]
    exact run_bind_error refused
  | block length accessed outside =>
    rcases blockLength?_cases w length accessed with
      ⟨op, size⟩ | ⟨op, size⟩ | ⟨op, size⟩ | ⟨op, size⟩
    · subst size
      rw [execute_draw m w op]
      exact run_bind_error (run_bind_error (readAtIndex_refused m _ outside))
    · have digits := Arithmetic.length_decimalDigits (m.registers.get w.x)
      rw [execute_storeDecimal m w op]
      exact run_bind_error (writeAtIndex_refused m _ length (digits.trans size.symm) outside)
    · have registers := length_upTo m.registers w.x
      rw [execute_storeRegisters m w op]
      exact run_bind_error (writeAtIndex_refused m _ length (registers.trans size.symm) outside)
    · subst size
      rw [execute_loadRegisters m w op]
      exact run_bind_error (run_bind_error (readAtIndex_refused m _ outside))

/-- There is at most one obstacle to an instruction. -/
theorem obstacle_unique (m : Machine) (w : Opcode) (u v : Violation) (first : Obstacle m w u)
    (second : Obstacle m w v) : u = v := by
  have broken := execute_refused m w u first
  rw [execute_refused m w v second] at broken
  cases broken
  rfl

theorem drawSprite_run (m : Machine) (x y height : Fin 16) (rows : List UInt8)
    (read : (readAtIndex height.val).run m = .ok rows m) :
    (drawSprite x y height).run m = .ok () (m.withSprite x y rows) := by
  unfold drawSprite
  rw [run_bind_ok read]
  rfl

theorem loadFromIndex_run (m : Machine) (x : Fin 16) (data : List UInt8)
    (read : (readAtIndex (x.val + 1)).run m = .ok data m) :
    (loadFromIndex x).run m = .ok () (m.withRegisters data) := by
  unfold loadFromIndex
  rw [run_bind_ok read]
  rfl

/-- Without an obstacle the instruction is carried out, with one of the five flows. -/
theorem execute_flow (m : Machine) (w : Opcode) (proper : w.operation ≠ .halt)
    (free : ∀ v, ¬ Obstacle m w v) :
    ∃ after, (execute w).run m = .ok () after ∧ Flow m w after := by
  have inside : ∀ length, blockLength? w = some length →
      Memory.inBounds m.registers.index.toNat length = true := by
    intro length accessed
    cases bounds : Memory.inBounds m.registers.index.toNat length with
    | true => rfl
    | false => exact absurd (.block length accessed bounds) (free _)
  cases op : w.operation with
  | call =>
    cases pushed : m.registers.stack.push (m.registers.pc + 2) with
    | error e =>
      unfold CallStack.push at pushed
      split at pushed
      · next full => exact absurd (.full op full) (free _)
      · cases pushed
    | ok stack =>
      have run : (pushAddress (m.registers.pc + 2)).run m = .ok () (m.withStack stack) := by
        rw [pushAddress_run, pushed]
      rw [execute_call m w op, run_bind_ok run]
      exact ⟨_, rfl, .called stack pushed rfl⟩
  | ret =>
    cases popped : m.registers.stack.pop with
    | error e =>
      unfold CallStack.pop at popped
      split at popped
      · next empty => exact absurd (.empty op empty) (free _)
      · cases popped
    | ok entry =>
      obtain ⟨address, stack⟩ := entry
      have run : popAddress.run m = .ok address (m.withStack stack) := by
        rw [popAddress_run, popped]
      rw [execute_ret m w op, run_bind_ok run]
      exact ⟨_, rfl, .returned address stack popped rfl⟩
  | draw =>
    obtain ⟨rows, read⟩ := readAtIndex_success m w.n.val (inside _ (by simp [blockLength?, op]))
    rw [execute_draw m w op, run_bind_ok (drawSprite_run m w.x w.y w.n rows read)]
    exact ⟨_, rfl, .forward 1 (Or.inl rfl) rfl rfl rfl rfl rfl⟩
  | storeDecimal =>
    have digits := Arithmetic.length_decimalDigits (m.registers.get w.x)
    obtain ⟨memory, written⟩ := writeAtIndex_success m _ 3 digits (inside _ (by simp [blockLength?, op]))
    rw [execute_storeDecimal m w op, run_bind_ok written]
    exact ⟨_, rfl, .forward 1 (Or.inl rfl) rfl rfl rfl rfl rfl⟩
  | storeRegisters =>
    have registers := length_upTo m.registers w.x
    obtain ⟨memory, written⟩ :=
      writeAtIndex_success m _ _ registers (inside _ (by simp [blockLength?, op]))
    rw [execute_storeRegisters m w op, run_bind_ok written]
    exact ⟨_, rfl, .forward 1 (Or.inl rfl) rfl rfl rfl rfl rfl⟩
  | loadRegisters =>
    obtain ⟨data, read⟩ :=
      readAtIndex_success m (w.x.val + 1) (inside _ (by simp [blockLength?, op]))
    rw [execute_loadRegisters m w op, run_bind_ok (loadFromIndex_run m w.x data read)]
    exact ⟨_, rfl, .forward 1 (Or.inl rfl) rfl rfl rfl rfl rfl⟩
  | halt => exact absurd op proper
  | jump =>
    unfold execute
    rw [EStateM.run_bind, EStateM.run_get, op]
    exact ⟨_, rfl, .jumped _ (Or.inl rfl) rfl⟩
  | jumpOffset =>
    unfold execute
    rw [EStateM.run_bind, EStateM.run_get, op]
    exact ⟨_, rfl, .jumped _ (Or.inr rfl) rfl⟩
  | awaitKey =>
    unfold execute
    rw [EStateM.run_bind, EStateM.run_get, op]
    exact ⟨_, rfl, .parked op rfl⟩
  | skipIfByte | skipUnlessByte | skipIfEqual | skipUnlessEqual | skipIfPressed
  | skipUnlessPressed =>
    unfold execute
    rw [EStateM.run_bind, EStateM.run_get, op]
    exact ⟨_, rfl, .forward _ (by split <;> simp) rfl rfl rfl rfl rfl⟩
  | _ =>
    unfold execute
    rw [EStateM.run_bind, EStateM.run_get, op]
    exact ⟨_, rfl, .forward 1 (Or.inl rfl) rfl rfl rfl rfl rfl⟩

/-- An instruction that is broken off has met an obstacle, and has changed nothing. -/
theorem execute_error (m left : Machine) (w : Opcode) (v : Violation) (proper : w.operation ≠ .halt)
    (broken : (execute w).run m = .error v left) : Obstacle m w v ∧ left = m := by
  by_cases blocked : ∃ v, Obstacle m w v
  · obtain ⟨u, obstacle⟩ := blocked
    rw [execute_refused m w u obstacle] at broken
    cases broken
    exact ⟨obstacle, rfl⟩
  · obtain ⟨after, run, _⟩ := execute_flow m w proper (fun u obstacle => blocked ⟨u, obstacle⟩)
    rw [run] at broken
    cases broken

end Chip8.Machine
