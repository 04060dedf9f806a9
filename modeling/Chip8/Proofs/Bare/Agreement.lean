import Chip8.Proofs.Bare.Image
import Chip8.Proofs.Machine.Step

/-!
# The two machines agree

Carried out on the image of a machine, an instruction leaves the image of what it leaves on the
machine itself, and is broken off by the same violations.  So a step of the image is the image of
the step.
-/
namespace Chip8.Bare

open Machine (run_bind_error run_bind_ok)

/-! ## Values -/

theorem ofInt8_emod (value : Int) : UInt8.ofInt (value % 256) = UInt8.ofInt value := by
  rw [← toNat_ofInt8, ofInt8_toNat]

theorem ofInt8_add (a b : UInt8) : UInt8.ofInt (a.toNat + b.toNat) = a + b := by
  have sum := toNat_ofInt8 (a.toNat + b.toNat)
  have total := UInt8.toNat_add a b
  rw [← UInt8.toNat_inj]
  omega

theorem ofInt8_bitwise (f : Nat → Nat → Nat) (g : UInt8 → UInt8 → UInt8)
    (same : ∀ x y, (g x y).toNat = f x.toNat y.toNat) (a b : Int) :
    UInt8.ofInt (bitwise f a b) = g (.ofInt a) (.ofInt b) := by
  have bits : bitwise f a b = ((g (.ofInt a) (.ofInt b)).toNat : Int) := by
    rw [same, bitwise, ← toNat_ofInt8 a, ← toNat_ofInt8 b]
    rfl
  rw [bits, ofInt8_toNat]

/-! The flags are bytes here and truth values there. -/

theorem add8_eq (a b : Int) :
    add8 a b = ((a + b) % 256, if (Arithmetic.add a b).2 then 1 else 0) := by
  simp only [add8, Arithmetic.add, decide_eq_true_eq]

theorem sub8_eq (a b : Int) :
    sub8 a b = ((a - b) % 256, if (Arithmetic.sub a b).2 then 1 else 0) := by
  simp only [sub8, Arithmetic.sub, decide_eq_true_eq]

theorem shr8_eq (a : Int) :
    shr8 a = (a / 2 % 128, if (Arithmetic.shiftRight a).2 then 1 else 0) := by
  simp only [shr8, Arithmetic.shiftRight, decide_eq_true_eq, Prod.mk.injEq, true_and]
  split <;> omega

theorem shl8_eq (a : Int) :
    shl8 a = (2 * a % 256, if (Arithmetic.shiftLeft a).2 then 1 else 0) := by
  simp only [shl8, Arithmetic.shiftLeft, decide_eq_true_eq, Prod.mk.injEq, true_and]
  split <;> omega

theorem beq_toNat (a b : UInt8) : ((a.toNat : Int) == b.toNat) = decide (a = b) := by
  by_cases same : a = b
  · rw [same, decide_eq_true rfl, beq_self_eq_true]
  · have different : (a.toNat : Int) ≠ b.toNat := by rwa [Ne, Int.natCast_inj, UInt8.toNat_inj]
    rw [decide_eq_false same]
    exact beq_eq_false_iff_ne.mpr different

theorem bne_toNat (a b : UInt8) : ((a.toNat : Int) != b.toNat) = decide (a ≠ b) := by
  rw [bne, beq_toNat, decide_not]

theorem lowKey_emod (n : Int) : lowKey (n % 16) = lowKey n := by
  simp only [lowKey, Int.emod_emod]

theorem digits_byte (b : UInt8) : digits b.toNat = integers (Arithmetic.decimalDigits b) := by
  have range := byte_range b
  have low : (b.toNat : Int) % 256 = b.toNat := by omega
  simp only [digits, low, Arithmetic.decimalDigits, integers, List.map_cons, List.map_nil]
  rfl

/-! ## Operands -/

section Operands
variable (m : Machine) (w : Opcode)

theorem vx_run :
    (vx w.instruction).run m.bare = .ok ((m.registers.get w.x).toNat : Int) m.bare := by
  rw [vx, instruction_x]
  exact getV_run m w.x

theorem vy_run :
    (vy w.instruction).run m.bare = .ok ((m.registers.get w.y).toNat : Int) m.bare := by
  rw [vy, instruction_y]
  exact getV_run m w.y

theorem immediate_run :
    (immediate w.instruction).run m.bare = .ok (w.kk.toNat : Int) m.bare := by
  rw [immediate, instruction_kk]
  rfl

theorem pressed_run :
    (pressed Input.source w.instruction).run m.bare =
      .ok (m.input.isDown (lowKey (m.registers.get w.x).toNat)) m.bare := by
  rw [← lowKey_emod]
  exact run_bind_ok (vx_run m w)

theorem both_run {α : Type} (f : Int → Int → α) {left right : Operand Input Int}
    {i : Instruction} {a b : Int} {before between after : Bare Input}
    (first : (left i).run before = .ok a between)
    (second : (right i).run between = .ok b after) :
    (both f left right i).run before = .ok (f a b) after :=
  (run_bind_ok first).trans (run_bind_ok second)

end Operands

/-! ## Families of handlers -/

section Families
variable {m after : Machine} {w : Opcode} {o : Operation}

theorem carryOut_forward {handler : Handler Input} (op : w.operation = o)
    (found : (handlers Input.source).lookup o = some handler)
    (ran : (handler w.instruction).run m.bare = .ok false after.bare) :
    (carryOut Input.source w.instruction).run m.bare = .ok () after.next.bare := by
  subst op
  rw [carryOut_eq _ w.instruction handler found]
  exact run_bind_ok ran

theorem carryOut_moved {handler : Handler Input} (op : w.operation = o)
    (found : (handlers Input.source).lookup o = some handler)
    (ran : (handler w.instruction).run m.bare = .ok true after.bare) :
    (carryOut Input.source w.instruction).run m.bare = .ok () after.bare := by
  subst op
  rw [carryOut_eq _ w.instruction handler found]
  exact run_bind_ok ran

theorem carryOut_broken {handler : Handler Input} {left : Machine} {v : Violation}
    (op : w.operation = o) (found : (handlers Input.source).lookup o = some handler)
    (broken : (handler w.instruction).run m.bare = .error (.violation v) left.bare) :
    (carryOut Input.source w.instruction).run m.bare = .error (.violation v) left.bare := by
  subst op
  rw [carryOut_eq _ w.instruction handler found]
  exact run_bind_error broken

theorem stored {value : Operand Input Int} {r : Int} {b : UInt8} (op : w.operation = o)
    (found : (handlers Input.source).lookup o = some (store value))
    (read : (value w.instruction).run m.bare = .ok r after.bare) (byte : UInt8.ofInt r = b) :
    (carryOut Input.source w.instruction).run m.bare =
      .ok () (after.setRegister w.x b).next.bare := by
  refine carryOut_forward op found ?_
  rw [store, run_bind_ok read, instruction_x, run_bind_ok (setV_run after w.x r), byte]
  rfl

theorem storedFlagged {value : Operand Input (Int × Int)} {r : Int} {f : UInt8 × Bool}
    (op : w.operation = o) (found : (handlers Input.source).lookup o = some (storeFlagged value))
    (read : (value w.instruction).run m.bare = .ok (r, if f.2 then 1 else 0) m.bare)
    (byte : UInt8.ofInt r = f.1) :
    (carryOut Input.source w.instruction).run m.bare =
      .ok () (m.setFlagged w.x f).next.bare := by
  refine carryOut_forward op found ?_
  rw [storeFlagged, run_bind_ok read, instruction_x, run_bind_ok (setV_run m w.x r), byte,
    run_bind_ok (setFlag_run _ f.2)]
  rfl

theorem skipIf_eq (m : Machine) (condition : Bool) :
    m.skipIf condition = (if condition then m.next else m).next := by
  have twice : (m.registers.pc + 2 * 2) % 65536 =
      ((m.registers.pc + 2 * 1) % 65536 + 2 * 1) % 65536 := by omega
  cases condition with
  | false => rfl
  | true => simp only [Machine.skipIf, Machine.next, Registers.advance, if_true, twice]

theorem skipped {condition : Operand Input Bool} {c : Bool} (op : w.operation = o)
    (found : (handlers Input.source).lookup o = some (skip condition))
    (read : (condition w.instruction).run m.bare = .ok c m.bare) :
    (carryOut Input.source w.instruction).run m.bare = .ok () (m.skipIf c).bare := by
  rw [skipIf_eq]
  refine carryOut_forward op found ?_
  rw [skip, run_bind_ok read]
  cases c <;> rfl

theorem pointed {value : Operand Input Int} {address : Int} (op : w.operation = o)
    (found : (handlers Input.source).lookup o = some (point value))
    (read : (value w.instruction).run m.bare = .ok address m.bare) :
    (carryOut Input.source w.instruction).run m.bare = .ok () (m.pointTo address).next.bare := by
  refine carryOut_forward op found ?_
  rw [point, run_bind_ok read, run_bind_ok (setIndex_run m address)]
  rfl

end Families

/-! ## Instructions -/

section Instructions
variable {m : Machine} {w : Opcode}

/-- A handler whose first access can be refused is carried out as the instruction is, if the access
goes as it does there and the rest of the handler does what the rest of the instruction does. -/
theorem carryOut_access {α β : Type} {o : Operation} {handler : Handler Input} {f : α → β}
    {access : Effect Input β} {rest : β → Effect Input Bool} {typed : Chip8.Effect α}
    (op : w.operation = o) (found : (handlers Input.source).lookup o = some handler)
    (began : (handler w.instruction).run m.bare = (access >>= rest).run m.bare)
    (same : access.run m.bare = image f (typed.run m))
    (broken : ∀ v left, typed.run m = .error v left → (Machine.execute w).run m = .error v left)
    (carried : ∀ a after, typed.run m = .ok a after → ∃ moved left,
      (rest (f a)).run after.bare = .ok moved left.bare ∧
      (Machine.execute w).run m = .ok () (if moved then left else left.next)) :
    (carryOut Input.source w.instruction).run m.bare = image id ((Machine.execute w).run m) := by
  cases ran : typed.run m with
  | error v left =>
    rw [ran] at same
    rw [broken v left ran]
    exact carryOut_broken op found (began.trans (run_bind_error same))
  | ok a after =>
    rw [ran] at same
    obtain ⟨moved, left, goes, done⟩ := carried a after ran
    have finished := began.trans ((run_bind_ok same).trans goes)
    rw [done]
    cases moved with
    | true => exact carryOut_moved op found finished
    | false => exact carryOut_forward op found finished

theorem call_agrees (op : w.operation = .call) :
    (carryOut Input.source w.instruction).run m.bare = image id ((Machine.execute w).run m) := by
  have executed := Machine.execute_call m w op
  have began : (call w.instruction).run m.bare =
      (push (m.registers.pc + 2) >>= fun _ => do jump w.instruction.nnn; return true).run m.bare :=
    rfl
  refine carryOut_access op rfl began (push_run m _)
    (fun _ _ refused => executed.trans (run_bind_error refused)) fun _ after pushed => ?_
  refine ⟨true, after.jump w.nnn, ?_, executed.trans (run_bind_ok pushed)⟩
  rw [instruction_nnn]
  rfl

theorem ret_agrees (op : w.operation = .ret) :
    (carryOut Input.source w.instruction).run m.bare = image id ((Machine.execute w).run m) := by
  have executed := Machine.execute_ret m w op
  have began : (ret w.instruction).run m.bare =
      (pop >>= fun address => do jump address; return true).run m.bare := rfl
  refine carryOut_access op rfl began (pop_run m)
    (fun _ _ refused => executed.trans (run_bind_error refused)) fun address after popped => ?_
  exact ⟨true, after.jump address.toNat, rfl, executed.trans (run_bind_ok popped)⟩

theorem draw_agrees (op : w.operation = .draw) :
    (carryOut Input.source w.instruction).run m.bare = image id ((Machine.execute w).run m) := by
  have executed := Machine.execute_draw m w op
  have began : (drawSprite w.instruction).run m.bare =
      (readBlock m.bare.index w.n.val >>= fun rows => do
        let x ← vx w.instruction
        let y ← vy w.instruction
        let hit ← flipPixels false (Screen.spritePoints x y rows)
        setFlag (if hit then 1 else 0)
        return false).run m.bare := by
    rw [← instruction_n]
    rfl
  refine carryOut_access op rfl began (readBlock_run m _)
    (fun _ _ refused => executed.trans (run_bind_error (run_bind_error refused)))
    fun rows after read => ?_
  obtain ⟨_, rfl⟩ := Machine.readAtIndex_ok m read
  have drawn := Machine.drawSprite_run after w.x w.y w.n rows read
  refine ⟨false, after.withSprite w.x w.y rows, ?_, executed.trans (run_bind_ok drawn)⟩
  rw [run_bind_ok (vx_run after w), run_bind_ok (vy_run after w),
    run_bind_ok (flipPixels_run after false _), run_bind_ok (setFlag_run _ _)]
  rfl

theorem write_agrees {handler : Handler Input} {data : List UInt8}
    {o : Operation} (op : w.operation = o)
    (found : (handlers Input.source).lookup o = some handler)
    (began : (handler w.instruction).run m.bare =
      (writeBlock m.bare.index (integers data) >>= fun _ => pure false).run m.bare)
    (executed : (Machine.execute w).run m =
      (Machine.writeAtIndex data >>= fun _ => modify Machine.next).run m) :
    (carryOut Input.source w.instruction).run m.bare = image id ((Machine.execute w).run m) := by
  refine carryOut_access op found began (writeBlock_run m data)
    (fun _ _ refused => executed.trans (run_bind_error refused)) fun _ after written => ?_
  exact ⟨false, after, rfl, executed.trans (run_bind_ok written)⟩

/-- Loading the first registers from bytes. -/
theorem splice_registers (x : Fin 16) (data : List UInt8) (size : data.length = x.val + 1) :
    splice m.bare.v 0 (x.val + 1 : Nat) (integers data) = (m.withRegisters data).bare.v := by
  have bound := x.isLt
  have registers : m.registers.v.toList.length = 16 := Vector.length_toList
  have loaded := splice_integers m.registers.v.toList data 0 (by omega)
  rw [← toList_setFrom _ _ _ (by omega), Nat.zero_add, size] at loaded
  exact loaded

theorem loadRegisters_agrees (op : w.operation = .loadRegisters) :
    (carryOut Input.source w.instruction).run m.bare = image id ((Machine.execute w).run m) := by
  have executed := Machine.execute_loadRegisters m w op
  have last : w.instruction.x + 1 = ((w.x.val + 1 : Nat) : Int) := by
    rw [instruction_x]
    rfl
  have began : (loadRegisters w.instruction).run m.bare =
      (readBlock m.bare.index (w.x.val + 1 : Nat) >>= fun data => do
        modify fun b => { b with v := splice b.v 0 (w.x.val + 1 : Nat) data }
        return false).run m.bare := by
    rw [← last]
    rfl
  refine carryOut_access op rfl began (readBlock_run m _)
    (fun _ _ refused => executed.trans (run_bind_error (run_bind_error refused)))
    fun data after read => ?_
  obtain ⟨found, rfl⟩ := Machine.readAtIndex_ok m read
  have loaded := Machine.loadFromIndex_run after w.x data read
  refine ⟨false, after.withRegisters data, ?_, executed.trans (run_bind_ok loaded)⟩
  rw [EStateM.run_bind, EStateM.run_modify]
  simp only [splice_registers w.x data (Memory.length_readStretch _ _ _ _ found)]
  rfl

end Instructions

section Instructions
variable (m : Machine) (w : Opcode)

theorem upTo_integers :
    Sequence.between m.bare.v 0 (w.instruction.x + 1) = integers (m.registers.upTo w.x) := by
  have named := w.x.isLt
  have registers : m.registers.v.toList.length = 16 := Vector.length_toList
  have last : w.instruction.x + 1 = ((w.x.val + 1 : Nat) : Int) := by
    rw [instruction_x]
    rfl
  have memory : m.bare.v = integers m.registers.v.toList := rfl
  have first : Sequence.border 16 0 = 0 := rfl
  rw [memory, last, between_integers, Sequence.between, registers, first,
    Sequence.border_natCast _ _ (by omega), List.drop_zero]
  rfl

theorem clearScreen_run :
    (clearScreen w.instruction).run m.bare = .ok false { m with screen := .blank }.bare := by
  have dark : List.replicate m.bare.pixels.length 0 =
      { m with screen := .blank }.bare.pixels := by
    simp only [Machine.bare, Screen.blank, Vector.toList_replicate, List.map_replicate,
      List.length_map, Vector.length_toList]
    rfl
  have began : (clearScreen w.instruction).run m.bare =
      .ok false { m.bare with pixels := List.replicate m.bare.pixels.length 0 } := rfl
  rw [began, dark]
  rfl

theorem awaitKey_run :
    (awaitKey Input.source w.instruction).run m.bare = .ok true (m.awaitKey w.x).bare := by
  have began : (awaitKey Input.source w.instruction).run m.bare =
      .ok true { m.bare with
        input := m.input.clearEvents
        waiting := some w.instruction.x } := rfl
  rw [began, instruction_x]
  rfl

theorem jumpOffset_run :
    (jumpOffset w.instruction).run m.bare =
      .ok true (m.jump (((w.nnn : Int) + m.registers.offset.toNat) % 65536)).bare := by
  have began : (jumpOffset w.instruction).run m.bare =
      (getV (0 : Fin 16).val >>= fun offset => do
        jump ((w.instruction.nnn + offset) % 65536)
        return true).run m.bare := rfl
  rw [began, run_bind_ok (getV_run m 0), instruction_nnn]
  rfl

/-- An instruction on the image leaves the image of what it leaves on the machine. -/
theorem carryOut_agrees (proper : w.operation ≠ .halt) :
    (carryOut Input.source w.instruction).run m.bare = image id ((Machine.execute w).run m) := by
  have x := vx_run m w
  have y := vy_run m w
  have kk := immediate_run m w
  cases op : w.operation
  case halt => exact absurd op proper
  case call => exact call_agrees op
  case ret => exact ret_agrees op
  case draw => exact draw_agrees op
  case loadRegisters => exact loadRegisters_agrees op
  case storeDecimal =>
    have began : (storeDecimal w.instruction).run m.bare =
        (vx w.instruction >>= fun value =>
          writeBlock m.bare.index (digits value) >>= fun _ => pure false).run m.bare := rfl
    rw [run_bind_ok x, digits_byte] at began
    exact write_agrees op rfl began (Machine.execute_storeDecimal m w op)
  case storeRegisters =>
    have began : (storeRegisters w.instruction).run m.bare =
        (writeBlock m.bare.index (Sequence.between m.bare.v 0 (w.instruction.x + 1)) >>=
          fun _ => pure false).run m.bare := rfl
    rw [upTo_integers] at began
    exact write_agrees op rfl began (Machine.execute_storeRegisters m w op)
  all_goals
    unfold Machine.execute
    rw [EStateM.run_bind, EStateM.run_get, op]
  case clearScreen => exact carryOut_forward op rfl (clearScreen_run m w)
  case jump =>
    refine carryOut_moved op rfl ?_
    rw [instruction_nnn]
    rfl
  case jumpOffset => exact carryOut_moved op rfl (jumpOffset_run m w)
  case skipIfByte => exact skipped op rfl ((both_run _ x kk).trans (by rw [beq_toNat]))
  case skipUnlessByte => exact skipped op rfl ((both_run _ x kk).trans (by rw [bne_toNat]))
  case skipIfEqual => exact skipped op rfl ((both_run _ x y).trans (by rw [beq_toNat]))
  case skipUnlessEqual => exact skipped op rfl ((both_run _ x y).trans (by rw [bne_toNat]))
  case skipIfPressed => exact skipped op rfl (pressed_run m w)
  case skipUnlessPressed => exact skipped op rfl (run_bind_ok (pressed_run m w))
  case loadByte => exact stored op rfl kk (ofInt8_toNat _)
  case addByte => exact stored op rfl (both_run _ x kk) (ofInt8_add _ _)
  case copy => exact stored op rfl y (ofInt8_toNat _)
  case or => exact stored op rfl (both_run _ x y) (ofInt8_bitwise _ _ UInt8.toNat_or _ _)
  case and => exact stored op rfl (both_run _ x y) (ofInt8_bitwise _ _ UInt8.toNat_and _ _)
  case xor => exact stored op rfl (both_run _ x y) (ofInt8_bitwise _ _ UInt8.toNat_xor _ _)
  case random =>
    have drawn : (drawn w.instruction).run m.bare =
      .ok m.random.draw.1 { m with random := m.random.draw.2 }.bare := rfl
    have bits := ofInt8_bitwise (· &&& ·) (· &&& ·) UInt8.toNat_and m.random.draw.1 w.kk.toNat
    rw [ofInt8_toNat] at bits
    exact stored op rfl (both_run _ drawn (immediate_run _ w)) bits
  case readDelay => exact stored op rfl rfl (ofInt8_toNat m.timers.delay)
  case add => exact storedFlagged op rfl ((both_run _ x y).trans (by rw [add8_eq])) (ofInt8_emod _)
  case sub => exact storedFlagged op rfl ((both_run _ x y).trans (by rw [sub8_eq])) (ofInt8_emod _)
  case subFrom =>
    exact storedFlagged op rfl ((both_run _ y x).trans (by rw [sub8_eq])) (ofInt8_emod _)
  case shiftRight =>
    have halved : (pure (shr8 (m.registers.get w.x).toNat) : Effect Input (Int × Int)).run m.bare =
      .ok _ m.bare := congrArg (EStateM.Result.ok · m.bare) (shr8_eq _)
    exact storedFlagged op rfl ((run_bind_ok x).trans halved) rfl
  case shiftLeft =>
    have doubled : (pure (shl8 (m.registers.get w.x).toNat) : Effect Input (Int × Int)).run m.bare =
      .ok _ m.bare := congrArg (EStateM.Result.ok · m.bare) (shl8_eq _)
    exact storedFlagged op rfl ((run_bind_ok x).trans doubled) (ofInt8_emod _)
  case loadIndex =>
    exact pointed op rfl (congrArg (EStateM.Result.ok · m.bare) (instruction_nnn w))
  case addIndex => exact pointed op rfl (run_bind_ok x)
  case loadGlyph => exact pointed op rfl (run_bind_ok x)
  case awaitKey => exact carryOut_moved op rfl (awaitKey_run m w)
  case setDelay => exact carryOut_forward op rfl (run_bind_ok x)
  case setSound => exact carryOut_forward op rfl (run_bind_ok x)
  case unknown => exact carryOut_forward op rfl rfl

end Instructions

/-! ## Steps -/

section Steps
variable (m : Machine)

theorem caught_violation (pc : Int) (v : Violation) (notices : List Notice) :
    caught pc (.error (.violation v) m.bare) =
      .ok ((m.stopAt pc v notices).outcome, (m.stopAt pc v notices).machine.bare) := by
  simp only [caught, recorded_bare]
  rfl

theorem fetchAndExecute_agrees :
    caught m.registers.pc ((fetchAndExecute Input.source).run m.bare) =
      .ok (m.fetchAndExecute.outcome, m.fetchAndExecute.machine.bare) := by
  have fetched := readWord_run m m.registers.pc
  have counter : m.bare.pc = m.registers.pc := rfl
  rw [fetchAndExecute, run_bind_ok (EStateM.run_get _), counter]
  unfold Machine.fetchAndExecute
  cases read : m.memory.readPair m.registers.pc with
  | error e =>
    rw [read] at fetched
    rw [run_bind_error fetched]
    simp only [read]
    exact caught_violation m _ _ []
  | ok pair =>
    obtain ⟨high, low⟩ := pair
    rw [read] at fetched
    rw [run_bind_ok fetched]
    simp only [read]
    by_cases zero : (Opcode.ofBytes high low).value = 0
    · simp only [zero, if_true, Int.natCast_zero]
      rfl
    · have proper : (Opcode.ofBytes high low).operation ≠ .halt := by
        rwa [Ne, Opcode.operation_eq_iff]
      have nonzero : ¬ ((Opcode.ofBytes high low).value : Int) = 0 := by omega
      have carried := carryOut_agrees
        (m.record (.executed m.registers.pc (.ofBytes high low))) _ proper
      rw [if_neg nonzero, decode_value, orSlip, run_bind_ok (EStateM.run_pure _ _),
        describe_eq, run_bind_ok (EStateM.run_pure _ _), Opcode.ofInt_value,
        run_bind_ok (record_run m _)]
      rw [if_neg zero]
      cases executed : (Machine.execute (.ofBytes high low)).run
          (m.record (.executed m.registers.pc (.ofBytes high low))) with
      | error v left =>
        rw [executed] at carried
        rw [run_bind_error carried]
        exact caught_violation left _ _ _
      | ok _ after =>
        rw [executed] at carried
        rw [run_bind_ok carried]
        rfl

/-- A key of any number is masked here as there. -/
theorem serviceWait_agrees (x : Fin 16) :
    (serviceWait Input.source x.val).run m.bare =
      .ok (m.serviceWait x).outcome (m.serviceWait x).machine.bare := by
  rw [serviceWait, run_bind_ok (EStateM.run_get _)]
  cases polled : m.input.poll with | mk key input =>
  have asked : Input.source.poll m.bare.input = (key, input) := polled
  cases key with
  | none =>
    rw [Machine.serviceWait_idle m x (by rw [polled]), polled]
    simp only [asked]
    rfl
  | some key =>
    rw [Machine.serviceWait_pressed m x key (by rw [polled]), Machine.resumed, polled]
    simp only [asked]
    have stored := setV_run { m with input } x (key % 16)
    have byte : UInt8.ofInt (key % 16) = UInt8.ofNat (lowKey key).val := by
      have low := toNat_ofInt8 (key % 16)
      rw [← UInt8.toNat_inj, UInt8.toNat_ofNat']
      simp only [lowKey]
      omega
    rw [byte] at stored
    have input : { m.bare with input } = { m with input }.bare := rfl
    rw [run_bind_ok (EStateM.run_set _ _), input, run_bind_ok stored]
    rfl

theorem cycle_agrees :
    cycle Input.source m.bare = .ok (m.cycle.outcome, m.cycle.machine.bare) := by
  have counted : m.bare.counted = { m with steps := m.steps + 1 }.bare := rfl
  cases stopped : m.fault with
  | some o => rw [cycle_stopped _ m.bare o stopped, Machine.cycle_stopped m o stopped]
  | none =>
    cases waits : m.waiting with
    | some x =>
      have waiting : m.bare.waiting = some (x.val : Int) := by
        simp only [Machine.bare, waits, Option.map_some]
      rw [cycle_waiting _ m.bare x.val stopped waiting, Machine.cycle_waiting m x stopped waits,
        counted, serviceWait_agrees]
    | none =>
      have waiting : m.bare.waiting = none := by
        simp only [Machine.bare, waits, Option.map_none]
      rw [cycle_running _ m.bare stopped waiting, Machine.cycle_running m stopped waits, counted]
      exact fetchAndExecute_agrees { m with steps := m.steps + 1 }

theorem step_agrees (elapsed : Reading) :
    step Input.source m.bare elapsed =
      match m.step elapsed with
      | .ok t => .ok (t.outcome, t.machine.bare)
      | .error e => .error (.timer e) := by
  have timers : m.bare.timers = m.timers := rfl
  unfold step Machine.step
  rw [timers]
  cases m.timers.update elapsed with
  | error e => rfl
  | ok given =>
    have agrees := cycle_agrees { m with timers := given.1 }
    have image : { m.bare with timers := given.1 } = { m with timers := given.1 }.bare := rfl
    simp only [image, agrees]

end Steps

end Chip8.Bare
