import Chip8.Proofs.Bare.Agreement
import Chip8.Proofs.Bare.Safety
import Chip8.Proofs.Timers

/-!
# Every step comes to an outcome

The digits of a word name registers, so every handler is safe.  Every word but zero has an
operation other than the end of the program, and every such operation has a handler.  So a machine
that is well formed makes its step without a slip, whatever its memory holds, wherever its program
counter points, and whatever its input answers, and is well formed again.  The images of machines
are well formed, and their steps are the steps of those machines.
-/
namespace Chip8.Bare

/-! ## Operands -/

namespace Instruction
variable (i : Instruction)

theorem x_range : 0 ≤ i.x ∧ i.x < 16 := by
  unfold x
  omega

theorem y_range : 0 ≤ i.y ∧ i.y < 16 := by
  unfold y
  omega

theorem n_range : 0 ≤ i.n ∧ i.n < 16 := by
  unfold n
  omega

end Instruction

section Operands
variable {σ : Type}

/-- An operand that is safe to read, or a handler that is safe to run, for any instruction. -/
def Operand.Safe {α : Type} (o : Operand σ α) (Q : α → Prop) : Prop := ∀ i, Bare.Safe (o i) Q

theorem safe_vx : Operand.Safe (vx (σ := σ)) IsByte :=
  fun i => safe_getV _ i.x_range.1 i.x_range.2

theorem safe_vy : Operand.Safe (vy (σ := σ)) IsByte :=
  fun i => safe_getV _ i.y_range.1 i.y_range.2

theorem safe_immediate : Operand.Safe (immediate (σ := σ)) IsByte :=
  fun _ => safe_pure _ (isByte_low _)

theorem safe_drawn : Operand.Safe (drawn (σ := σ)) fun _ => True :=
  fun _ => safe_get.bind fun m wf =>
    (safe_set { m with random := m.random.draw.2 } { wf with }).tell _

theorem safe_delay : Operand.Safe (delay (σ := σ)) fun _ => True :=
  fun _ => safe_get.tell _

theorem safe_indexPlus : Operand.Safe (indexPlus (σ := σ)) fun _ => True :=
  fun i => safe_get.bind fun _ _ => (safe_vx i).tell _

theorem safe_pressed (source : Source σ) : Operand.Safe (pressed source) fun _ => True :=
  fun i => (safe_vx i).bind fun key _ => safe_get.bind fun m wf =>
    (safe_set { m with input := (source.isDown m.input (key % 16)).2 } { wf with }).tell _

theorem safe_both {α : Type} (f : Int → Int → α) {left right : Operand σ Int} {P Q : Int → Prop}
    {R : α → Prop} (first : Operand.Safe left P) (second : Operand.Safe right Q)
    (holds : ∀ a b, P a → Q b → R (f a b)) : Operand.Safe (both f left right) R :=
  fun i => (first i).bind fun a pa => (second i).bind fun b qb => safe_pure _ (holds a b pa qb)

end Operands

/-! ## Handlers -/

section Handlers
variable {σ : Type}

theorem safe_store {value : Operand σ Int} {Q : Int → Prop} (safe : Operand.Safe value Q) :
    Operand.Safe (store value) fun _ => True :=
  fun i => (safe i).bind fun result _ => (safe_setV i.x result i.x_range.1 i.x_range.2).tell _

/-- The flag is stored as it is, so it must be a byte; the result is masked. -/
theorem safe_storeFlagged {value : Operand σ (Int × Int)}
    (safe : Operand.Safe value fun r => IsByte r.2) :
    Operand.Safe (storeFlagged value) fun _ => True :=
  fun i => (safe i).bind fun r byte => (safe_setV i.x r.1 i.x_range.1 i.x_range.2).bind
    fun _ _ => (safe_setFlag r.2 byte).tell _

theorem safe_skip {condition : Operand σ Bool} {Q : Bool → Prop}
    (safe : Operand.Safe condition Q) : Operand.Safe (skip condition) fun _ => True := by
  refine fun i => (safe i).bind fun holds _ => ?_
  cases holds with
  | true => exact safe_advance.tell _
  | false => exact safe_pure _ trivial

theorem safe_point {value : Operand σ Int} {Q : Int → Prop} (safe : Operand.Safe value Q) :
    Operand.Safe (point value) fun _ => True :=
  fun i => (safe i).bind fun address _ => (safe_setIndex address).tell _

theorem safe_clearScreen : Operand.Safe (clearScreen (σ := σ)) fun _ => True := by
  refine fun _ => (safe_modify _ ?_).tell _
  refine fun m wf => { wf with pixels := ⟨?_, fun b member => ?_⟩ }
  · rw [List.length_replicate, wf.pixels.length]
  · rw [List.eq_of_mem_replicate member]
    decide

theorem safe_ret : Operand.Safe (ret (σ := σ)) fun _ => True :=
  fun _ => safe_pop.bind fun address _ => (safe_jump address).tell _

theorem safe_call : Operand.Safe (call (σ := σ)) fun _ => True :=
  fun i => safe_get.bind fun m _ => (safe_push (m.pc + 2)).bind fun _ _ => (safe_jump i.nnn).tell _

theorem safe_jumpOffset : Operand.Safe (jumpOffset (σ := σ)) fun _ => True :=
  fun _ => (safe_getV 0 (by decide) (by decide)).bind fun _ _ => (safe_jump _).tell _

theorem safe_drawSprite : Operand.Safe (drawSprite (σ := σ)) fun _ => True := by
  intro i
  obtain ⟨height, rows⟩ := Int.eq_ofNat_of_zero_le i.n_range.1
  refine safe_get.bind fun m _ => ?_
  rw [rows]
  refine (safe_readBlock m.index height).bind fun rows _ => (safe_vx i).bind fun x _ =>
    (safe_vy i).bind fun y _ => (safe_flipPixels false _).bind fun hit _ => ?_
  refine (safe_setFlag _ ?_).tell _
  unfold IsByte
  split <;> decide

theorem safe_awaitKey (source : Source σ) : Operand.Safe (awaitKey source) fun _ => True := by
  refine fun i => (safe_modify _ ?_).tell _
  refine fun m wf => { wf with waiting := fun x waits => ?_ }
  cases waits
  exact i.x_range

theorem safe_setTimer (f : Timers → Int → Timers) :
    Operand.Safe (setTimer (σ := σ) f) fun _ => True :=
  fun i => (safe_vx i).bind fun value _ =>
    (safe_modify (fun m => { m with timers := f m.timers value }) fun _ wf => { wf with }).tell _

theorem digits_bytes (value : Int) : Bytes 3 (digits value) := by
  refine ⟨rfl, fun b member => ?_⟩
  simp only [digits, List.mem_cons, List.not_mem_nil, or_false] at member
  omega

theorem safe_storeDecimal : Operand.Safe (storeDecimal (σ := σ)) fun _ => True :=
  fun i => safe_get.bind fun m _ => (safe_vx i).bind fun value _ =>
    (safe_writeBlock m.index 3 _ (digits_bytes value)).tell _

theorem safe_storeRegisters : Operand.Safe (storeRegisters (σ := σ)) fun _ => True := by
  intro i
  obtain ⟨last, register⟩ := Int.eq_ofNat_of_zero_le i.x_range.1
  have named := i.x_range.2
  refine safe_get.bind fun m wf => ?_
  have data := wf.registers.between 0 (last + 1) (by omega)
  have border : ((0 + (last + 1) : Nat) : Int) = i.x + 1 := by omega
  rw [border] at data
  exact (safe_writeBlock m.index _ _ data).tell _

theorem safe_loadRegisters : Operand.Safe (loadRegisters (σ := σ)) fun _ => True := by
  intro i
  obtain ⟨last, register⟩ := Int.eq_ofNat_of_zero_le i.x_range.1
  have named := i.x_range.2
  have count : i.x + 1 = ((0 + (last + 1) : Nat) : Int) := by omega
  refine safe_get.bind fun m _ => ?_
  rw [count]
  refine (safe_readBlock m.index _).bind fun data bytes => ?_
  refine (safe_modify _ ?_).tell _
  rw [Nat.zero_add] at bytes
  exact fun m wf => { wf with registers := wf.registers.splice 0 bytes (by omega) }

end Handlers

/-! ## Tables -/

/-- Every operation but the end of the program has a handler, and that is safe. -/
theorem handlers_safe {σ : Type} (source : Source σ) (op : Operation) (proper : op ≠ .halt) :
    ∃ handler, (handlers source).lookup op = some handler ∧
      Operand.Safe handler fun _ => True := by
  have any : ∀ {α : Type} (f : Int → Int → α) {left right : Operand σ Int} {P Q : Int → Prop},
      Operand.Safe left P → Operand.Safe right Q →
      Operand.Safe (both f left right) fun _ => True :=
    fun f _ _ _ _ left right => safe_both f left right fun _ _ _ _ => trivial
  cases op with
  | halt => exact absurd rfl proper
  | clearScreen => exact ⟨_, rfl, safe_clearScreen⟩
  | ret => exact ⟨_, rfl, safe_ret⟩
  | jump => exact ⟨_, rfl, fun i => (safe_jump i.nnn).tell _⟩
  | call => exact ⟨_, rfl, safe_call⟩
  | jumpOffset => exact ⟨_, rfl, safe_jumpOffset⟩
  | skipIfByte | skipUnlessByte => exact ⟨_, rfl, safe_skip (any _ safe_vx safe_immediate)⟩
  | skipIfEqual | skipUnlessEqual => exact ⟨_, rfl, safe_skip (any _ safe_vx safe_vy)⟩
  | loadByte => exact ⟨_, rfl, safe_store safe_immediate⟩
  | addByte => exact ⟨_, rfl, safe_store (any _ safe_vx safe_immediate)⟩
  | copy => exact ⟨_, rfl, safe_store safe_vy⟩
  | or | and | xor => exact ⟨_, rfl, safe_store (any _ safe_vx safe_vy)⟩
  | add | sub =>
    refine ⟨_, rfl, safe_storeFlagged (safe_both _ safe_vx safe_vy fun a b _ _ => ?_)⟩
    simp only [add8, sub8, IsByte]
    split <;> decide
  | subFrom =>
    refine ⟨_, rfl, safe_storeFlagged (safe_both _ safe_vy safe_vx fun a b _ _ => ?_)⟩
    simp only [sub8, IsByte]
    split <;> decide
  | shiftRight | shiftLeft =>
    refine ⟨_, rfl, safe_storeFlagged fun i => (safe_vx i).bind fun a _ => safe_pure _ ?_⟩
    simp only [shr8, shl8, IsByte]
    omega
  | random => exact ⟨_, rfl, safe_store (any _ safe_drawn safe_immediate)⟩
  | loadIndex => exact ⟨_, rfl, safe_point (Q := fun _ => True) fun _ => safe_pure _ trivial⟩
  | addIndex => exact ⟨_, rfl, safe_point safe_indexPlus⟩
  | loadGlyph => exact ⟨_, rfl, safe_point fun i => (safe_vx i).tell _⟩
  | draw => exact ⟨_, rfl, safe_drawSprite⟩
  | skipIfPressed => exact ⟨_, rfl, safe_skip (safe_pressed source)⟩
  | skipUnlessPressed => exact ⟨_, rfl, safe_skip fun i => (safe_pressed source i).tell _⟩
  | awaitKey => exact ⟨_, rfl, safe_awaitKey source⟩
  | readDelay => exact ⟨_, rfl, safe_store safe_delay⟩
  | setDelay | setSound => exact ⟨_, rfl, safe_setTimer _⟩
  | storeDecimal => exact ⟨_, rfl, safe_storeDecimal⟩
  | storeRegisters => exact ⟨_, rfl, safe_storeRegisters⟩
  | loadRegisters => exact ⟨_, rfl, safe_loadRegisters⟩
  | unknown => exact ⟨_, rfl, fun _ => safe_pure _ trivial⟩

/-! ## Steps -/

section Step
variable {σ : Type} (source : Source σ)

theorem safe_describe (i : Instruction) : Safe (describe i : Effect σ Unit) fun _ => True := by
  rw [describe_eq]
  exact safe_pure () trivial

theorem safe_carryOut (i : Instruction) (proper : i.op ≠ .halt) :
    Safe (carryOut source i) fun _ => True := by
  obtain ⟨handler, found, safe⟩ := handlers_safe source i.op proper
  rw [carryOut_eq source i handler found]
  refine (safe i).bind fun moved _ => ?_
  cases moved with
  | true => exact safe_pure () trivial
  | false => exact safe_advance

theorem safe_fetchAndExecute :
    Safe (fetchAndExecute source) fun o => o = .running ∨ o = .halted := by
  refine safe_get.bind fun m _ => (safe_readWord m.pc).bind fun word range => ?_
  split
  · exact safe_pure _ (.inr rfl)
  · next nonzero =>
    refine (safe_orSlip (decode_proper word (by omega) range.2)).bind fun i proper => ?_
    refine (safe_describe i).bind fun _ _ => (safe_record _).bind fun _ _ => ?_
    exact (safe_carryOut source i proper).bind fun _ _ => safe_pure _ (.inl rfl)

/-- Asking for a key meets no violation, which would not be caught. -/
theorem serviceWait_done (m : Bare σ) (wf : m.WellFormed) (x : Int) (lower : 0 ≤ x)
    (upper : x < 16) :
    ∃ after, (serviceWait source x).run m = .ok .running after ∧ after.WellFormed := by
  cases polled : source.poll m.input with | mk key input =>
  cases key with
  | none =>
    refine ⟨{ m with input }, ?_, { wf with }⟩
    simp only [serviceWait, EStateM.run_bind, EStateM.run_get, EStateM.run_set, polled,
      EStateM.run_pure]
  | some key =>
    obtain ⟨v, stored, sized⟩ := wf.registers.put x (key % 16 % 256) lower upper (isByte_low _)
    refine ⟨{ m with v, input, waiting := none, pc := (m.pc + 2) % 65536 }, ?_,
      { wf with registers := sized, waiting := by intro _ waits; cases waits }⟩
    simp only [serviceWait, setV, putV, advance, EStateM.run_bind, EStateM.run_get,
      EStateM.run_set, EStateM.run_modify, polled, stored, orSlip, EStateM.run_pure]

theorem cycle_total (m : Bare σ) (wf : m.WellFormed) :
    ∃ o after, cycle source m = .ok (o, after) ∧
      (o = .running ∨ o = .halted ∨ o.isFault) ∧ after.WellFormed := by
  have counted : m.counted.WellFormed := { wf with }
  cases fault : m.fault with
  | some o => exact ⟨o, m, cycle_stopped source m o fault, .inr (.inr (wf.fault o fault)), wf⟩
  | none =>
    cases waiting : m.waiting with
    | some x =>
      obtain ⟨lower, upper⟩ := wf.waiting x waiting
      obtain ⟨after, served, kept⟩ := serviceWait_done source _ counted x lower upper
      refine ⟨.running, after, ?_, .inl rfl, kept⟩
      rw [cycle_waiting source m x fault waiting, served]
    | none =>
      have sound := safe_fetchAndExecute source _ counted
      rw [cycle_running source m fault waiting]
      cases executed : (fetchAndExecute source).run m.counted with
      | ok o after =>
        rw [executed] at sound
        cases sound with
        | ok _ _ kept ending => exact ⟨o, after, rfl, ending.imp_right .inl, kept⟩
      | error failure left =>
        rw [executed] at sound
        cases sound with
        | violation v _ kept =>
          refine ⟨Machine.faultAt m.pc v, _, rfl, .inr (.inr rfl),
            { kept.recorded (.failed v) with fault := ?_ }⟩
          intro o stopped
          cases stopped
          rfl

end Step

theorem bytes_image {n : Nat} (v : Vector UInt8 n) : Bytes n (integers v.toList) := by
  refine ⟨by simp only [integers, List.length_map, Vector.length_toList], fun b member => ?_⟩
  obtain ⟨byte, _, rfl⟩ := List.mem_map.mp member
  exact byte_range byte

/-- The image of a machine is well formed if its call stack has at most sixteen places. -/
theorem bare_wellFormed (m : Machine) (depth : m.registers.stack.depth ≤ 16)
    (size : m.registers.stack.size ≤ 16) (fault : ∀ o, m.fault = some o → o.isFault) :
    m.bare.WellFormed where
  registers := bytes_image m.registers.v
  memory := bytes_image m.memory.cells
  pixels := by
    refine ⟨by simp only [Machine.bare, List.length_map, Vector.length_toList], fun b member => ?_⟩
    obtain ⟨lit, _, rfl⟩ := List.mem_map.mp member
    split <;> decide
  index := by
    have := m.registers.index.toNat_lt
    simp only [Machine.bare]
    omega
  depth := depth
  stack := by simpa only [Machine.bare, List.length_map, CallStack.size] using size
  waiting := by
    intro x waits
    obtain ⟨digit, _, rfl⟩ := Option.map_eq_some_iff.mp waits
    omega
  fault := fault

/-- A step of a well-formed machine never goes wrong.  If its timers accept the time, it comes to an
outcome and leaves the machine well formed, whatever the input answers; and on the image of a
machine it is the step of that machine. -/
theorem step_total :
    (∀ {σ : Type} (source : Source σ) (m : Bare σ) (elapsed : Reading) (given : Timers × Nat),
      m.WellFormed → m.timers.update elapsed = .ok given →
      ∃ o after, step source m elapsed = .ok (o, after) ∧
        (o = .running ∨ o = .halted ∨ o.isFault) ∧ after.WellFormed) ∧
    ∀ (m : Machine) (elapsed : Reading),
      step Input.source m.bare elapsed =
        match m.step elapsed with
        | .ok t => .ok (t.outcome, t.machine.bare)
        | .error e => .error (.timer e) := by
  refine ⟨fun source m elapsed given wf accepted => ?_, step_agrees⟩
  have timed : WellFormed { m with timers := given.1 } := { wf with }
  obtain ⟨o, after, cycled, proper, kept⟩ := cycle_total source _ timed
  refine ⟨o, after, ?_, proper, kept⟩
  unfold step
  simp only [accepted, cycled]

/-- A program counter far below memory is a fault like any other. -/
theorem step_total_below :
    ∃ o after, step Input.source (({} : Machine).jump (-4096)).bare Timers.noTime = .ok (o, after) ∧
      (o = .running ∨ o = .halted ∨ o.isFault) ∧ after.WellFormed :=
  step_total.1 Input.source _ Timers.noTime ({}, 0)
    (bare_wellFormed _ (by decide) (by decide) (by intro _ stopped; cases stopped))
    (Timers.update_noTime {} rfl)

end Chip8.Bare
