import Chip8.Proofs.Machine.Instruction

/-!
# What an instruction does not see

An instruction neither reads nor changes what a machine keeps about itself: the count of steps, the
fault, the loaded program, the breakpoints and the trace.  The random source is read by one
instruction alone.
-/
namespace Chip8.Machine

/-- The machine `m` with the parts of `n` that instructions do not see, and its random source. -/
def withUnseen (m n : Machine) : Machine :=
  { m with
    random := n.random
    steps := n.steps
    fault := n.fault
    program := n.program
    breakpoints := n.breakpoints
    tracing := n.tracing
    trace := n.trace }

@[simp] theorem withUnseen_registers (m n : Machine) :
    (m.withUnseen n).registers = m.registers := rfl

@[simp] theorem withUnseen_memory (m n : Machine) : (m.withUnseen n).memory = m.memory := rfl

/-- The result of an effect with another state. -/
def mapState {α : Type} (f : Machine → Machine) :
    EStateM.Result Violation Machine α → EStateM.Result Violation Machine α
  | .ok a m => .ok a (f m)
  | .error v m => .error v (f m)

/-- Whether an effect does the same with other unseen parts, and leaves those alone. -/
def Blind {α : Type} (e : Effect α) : Prop :=
  ∀ m n, e.run (m.withUnseen n) = mapState (·.withUnseen n) (e.run m)

theorem Blind.bind {α β : Type} {e : Effect α} {f : α → Effect β} (first : Blind e)
    (second : ∀ a, Blind (f a)) : Blind (e >>= f) := by
  intro m n
  rw [EStateM.run_bind, EStateM.run_bind, first m n]
  cases e.run m with
  | ok a after => exact second a after n
  | error v left => rfl

theorem Blind.modify (f : Machine → Machine)
    (unseen : ∀ m n, f (m.withUnseen n) = (f m).withUnseen n) : Blind (modify f) := by
  intro m n
  exact congrArg (EStateM.Result.ok ()) (unseen m n)

theorem blind_next : Blind (modify next) := .modify next fun _ _ => rfl

theorem blind_pushAddress (address : Int) : Blind (pushAddress address) := by
  intro m n
  rw [pushAddress_run, pushAddress_run, withUnseen_registers]
  cases m.registers.stack.push address <;> rfl

theorem blind_popAddress : Blind popAddress := by
  intro m n
  rw [popAddress_run, popAddress_run, withUnseen_registers]
  rcases m.registers.stack.pop with e | ⟨address, stack⟩ <;> rfl

theorem blind_readAtIndex (length : Nat) : Blind (readAtIndex length) := by
  intro m n
  rw [readAtIndex_run, readAtIndex_run, withUnseen_registers, withUnseen_memory]
  cases m.memory.readStretch m.registers.index.toNat length <;> rfl

theorem blind_writeAtIndex (data : List UInt8) : Blind (writeAtIndex data) := by
  intro m n
  rw [writeAtIndex_run, writeAtIndex_run, withUnseen_registers, withUnseen_memory]
  cases m.memory.writeBlock m.registers.index.toNat data <;> rfl

theorem blind_drawSprite (x y height : Fin 16) : Blind (drawSprite x y height) := by
  have blind : Blind (readAtIndex height.val >>= fun rows => modify (·.withSprite x y rows)) :=
    (blind_readAtIndex height.val).bind fun rows => .modify _ fun _ _ => rfl
  exact blind

theorem blind_loadFromIndex (x : Fin 16) : Blind (loadFromIndex x) :=
  (blind_readAtIndex (x.val + 1)).bind fun _ => .modify _ fun _ _ => rfl

/-- All instructions but the one that reads the random source are blind. -/
theorem blind_execute (w : Opcode) (steady : w.operation ≠ .random) : Blind (execute w) := by
  intro m n
  cases op : w.operation with
  | random => exact absurd op steady
  | call =>
    rw [execute_call _ w op, execute_call m w op, withUnseen_registers]
    exact (blind_pushAddress _).bind (fun _ => .modify _ fun _ _ => rfl) m n
  | ret =>
    rw [execute_ret _ w op, execute_ret m w op]
    exact blind_popAddress.bind (fun _ => .modify _ fun _ _ => rfl) m n
  | draw =>
    rw [execute_draw _ w op, execute_draw m w op]
    exact (blind_drawSprite w.x w.y w.n).bind (fun _ => blind_next) m n
  | storeDecimal =>
    rw [execute_storeDecimal _ w op, execute_storeDecimal m w op, withUnseen_registers]
    exact (blind_writeAtIndex _).bind (fun _ => blind_next) m n
  | storeRegisters =>
    rw [execute_storeRegisters _ w op, execute_storeRegisters m w op, withUnseen_registers]
    exact (blind_writeAtIndex _).bind (fun _ => blind_next) m n
  | loadRegisters =>
    rw [execute_loadRegisters _ w op, execute_loadRegisters m w op]
    exact (blind_loadFromIndex w.x).bind (fun _ => blind_next) m n
  | _ =>
    unfold execute
    rw [EStateM.run_bind, EStateM.run_get, EStateM.run_bind, EStateM.run_get, op]
    rfl

theorem execute_random (m : Machine) (w : Opcode) (op : w.operation = .random) :
    (execute w).run m = .ok () (m.randomise w.x w.kk).next := by
  unfold execute
  rw [EStateM.run_bind, EStateM.run_get, op]
  rfl

/-- Whether two machines have the same count of steps, fault, program, breakpoints and trace. -/
structure SameRecords (m n : Machine) : Prop where
  steps : n.steps = m.steps
  fault : n.fault = m.fault
  program : n.program = m.program
  breakpoints : n.breakpoints = m.breakpoints
  tracing : n.tracing = m.tracing
  trace : n.trace = m.trace

/-- A blind effect leaves the unseen parts as they were, also when it is broken off. -/
theorem Blind.kept {α : Type} {e : Effect α} (blind : Blind e) (m : Machine) :
    e.run m = mapState (·.withUnseen m) (e.run m) :=
  blind m m

/-- An instruction that is carried out leaves them alone. -/
theorem execute_sameRecords (m after : Machine) (w : Opcode)
    (run : (execute w).run m = .ok () after) : SameRecords m after := by
  by_cases op : w.operation = .random
  · rw [execute_random m w op] at run
    cases run
    exact ⟨rfl, rfl, rfl, rfl, rfl, rfl⟩
  · have same := (blind_execute w op).kept m
    rw [run] at same
    have kept : after = after.withUnseen m := by
      injection same
    rw [kept]
    exact ⟨rfl, rfl, rfl, rfl, rfl, rfl⟩

end Chip8.Machine
