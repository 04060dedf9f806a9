import Chip8.Proofs.Machine.Session
import Chip8.Proofs.Machine.Writes
import Chip8.Proofs.Timers

/-!
# Register arithmetic

The instructions that compute with registers read both of their operands, write the result over the
first one and then, if they have one, the flag over the flag register.  Operands, result and flag may
share a register: the flag then takes the place of the result, and never that of an operand that is
still to be read.
-/
namespace Chip8

/-- What an operation of the register arithmetic makes of the values `a` and `b` of its two registers
and of the low byte of its word: the result, and the flag if it has one. -/
inductive Operation.Computes (kk a b : Nat) : Operation → Int → Option Int → Prop where
  | loadByte : Computes kk a b .loadByte kk none
  | addByte : Computes kk a b .addByte (((a : Int) + kk) % 256) none
  | copy : Computes kk a b .copy b none
  | or : Computes kk a b .or (a ||| b : Nat) none
  | and : Computes kk a b .and (a &&& b : Nat) none
  | xor : Computes kk a b .xor (a ^^^ b : Nat) none
  | add : Computes kk a b .add (((a : Int) + b) % 256) (some (if a + b > 255 then 1 else 0))
  | sub : Computes kk a b .sub (((a : Int) - b) % 256) (some (if a > b then 1 else 0))
  | subFrom : Computes kk a b .subFrom (((b : Int) - a) % 256) (some (if b > a then 1 else 0))
  | shiftRight : Computes kk a b .shiftRight (a / 2 : Nat) (some (a % 2 : Nat))
  | shiftLeft : Computes kk a b .shiftLeft (2 * a % 256 : Nat) (some (a / 128 : Nat))

theorem Arithmetic.toNat_flagByte {b : Bool} {p : Prop} [Decidable p] (flagged : b = true ↔ p) :
    ((flagByte b).toNat : Int) = if p then 1 else 0 := by
  simp only [← flagged]
  cases b <;> rfl

/-- The value of a register after an instruction with a result and, perhaps, a flag. -/
def Registers.computed (r : Registers) (x : Fin 16) (result : Int) (flag : Option Int) (i : Fin 16) :
    Int :=
  let value := if i = x then result else (r.get i).toNat
  if i = Registers.flag then flag.getD value else value

namespace Machine

section Run
variable {m : Machine} {w : Opcode} {o : Operation} {x : Fin 16} {result : Int}

theorem get_result {r : UInt8} (value : (r.toNat : Int) = result) (i : Fin 16) :
    (((m.setRegister x r).registers.get i).toNat : Int) =
      m.registers.computed x result none i := by
  rw [setRegister, Registers.get_set, Registers.computed, Option.getD_none, ite_self, ← value]
  split <;> rfl

theorem get_flagged {r : UInt8 × Bool} {flag : Int} (value : (r.1.toNat : Int) = result)
    (flagged : ((Arithmetic.flagByte r.2).toNat : Int) = flag) (i : Fin 16) :
    (((m.setFlagged x r).registers.get i).toNat : Int) =
      m.registers.computed x result (some flag) i := by
  rw [get_setFlagged, Registers.computed, Option.getD_some, ← value, ← flagged]
  split
  · rfl
  · split <;> rfl

/-- An operation of the register arithmetic is carried out, and leaves its result and its flag. -/
theorem execute_computes {flag : Option Int} (op : w.operation = o)
    (computes : o.Computes w.low (m.registers.get w.x).toNat (m.registers.get w.y).toNat result flag) :
    ∃ after, (execute w).run m = .ok () after ∧
      ∀ i, ((after.registers.get i).toNat : Int) = m.registers.computed w.x result flag i := by
  have a := byte_range (m.registers.get w.x)
  have b := byte_range (m.registers.get w.y)
  have kk := w.toNat_kk
  unfold execute
  rw [EStateM.run_bind, EStateM.run_get, op]
  -- both operands are registers of `m`, so that neither of the two writes changes one
  cases computes with
  | loadByte => exact ⟨_, rfl, get_result (congrArg Nat.cast kk)⟩
  | addByte =>
    refine ⟨_, rfl, get_result ?_⟩
    rw [UInt8.toNat_add, kk]
    omega
  | copy => exact ⟨_, rfl, get_result rfl⟩
  | or =>
    refine ⟨_, rfl, get_result ?_⟩
    rw [Arithmetic.or, ofInt8_toNat, ofInt8_toNat, UInt8.toNat_or]
  | and =>
    refine ⟨_, rfl, get_result ?_⟩
    rw [Arithmetic.and, ofInt8_toNat, ofInt8_toNat, UInt8.toNat_and]
  | xor =>
    refine ⟨_, rfl, get_result ?_⟩
    rw [Arithmetic.xor, ofInt8_toNat, ofInt8_toNat, UInt8.toNat_xor]
  | add =>
    refine ⟨_, rfl, get_flagged (toNat_ofInt8 _) (Arithmetic.toNat_flagByte ?_)⟩
    exact decide_eq_true_iff.trans (by omega)
  | sub =>
    refine ⟨_, rfl, get_flagged (toNat_ofInt8 _) (Arithmetic.toNat_flagByte ?_)⟩
    exact decide_eq_true_iff.trans (by omega)
  | subFrom =>
    refine ⟨_, rfl, get_flagged (toNat_ofInt8 _) (Arithmetic.toNat_flagByte ?_)⟩
    exact decide_eq_true_iff.trans (by omega)
  | shiftRight =>
    refine ⟨_, rfl, get_flagged ((toNat_ofInt8 _).trans ?_)
      ((Arithmetic.toNat_flagByte decide_eq_true_iff).trans ?_)⟩
    · omega
    · split <;> omega
  | shiftLeft =>
    refine ⟨_, rfl, get_flagged ((toNat_ofInt8 _).trans ?_)
      ((Arithmetic.toNat_flagByte decide_eq_true_iff).trans ?_)⟩
    · omega
    · split <;> omega

end Run

/-- A step that is due to an instruction of the register arithmetic carries it out.  The flag is in
the flag register whichever registers the operands are, the result is in its register unless the flag
has taken its place, and every other register keeps its value. -/
theorem arithmetic_step (m : Machine) (w : Opcode) (o : Operation) (result : Int)
    (flag : Option Int) (elapsed : Reading) (timers : Timers) (ticks : Nat)
    (due : m.due? = some w) (fits : o.Fits w)
    (computes : o.Computes w.low (m.registers.get w.x).toNat (m.registers.get w.y).toNat result flag)
    (accepted : m.timers.update elapsed = .ok (timers, ticks)) :
    ∃ t, m.step elapsed = .ok t ∧ t.outcome = .running ∧
      (flag = none → ((t.machine.registers.get w.x).toNat : Int) = result) ∧
      (∀ f, flag = some f →
        ((t.machine.registers.get Registers.flag).toNat : Int) = f ∧
        (w.x ≠ Registers.flag → ((t.machine.registers.get w.x).toNat : Int) = result)) ∧
      ∀ i, i ≠ w.x → (flag = none ∨ i ≠ Registers.flag) →
        t.machine.registers.get i = m.registers.get i := by
  have op := w.operation_of_fits o fits
  obtain ⟨t, stepped, performed⟩ := m.step_success elapsed timers ticks accepted
  have carries : m.Carries w := by
    refine carries_of_operation due ?_
    rw [op]
    cases computes <;> decide
  obtain ⟨running, run⟩ := result_carries carries performed
  have same := record_registers (m.begun timers) (.executed m.registers.pc w)
  rw [begun_registers] at same
  rw [← same] at computes
  obtain ⟨after, again, values⟩ := execute_computes op computes
  rw [same] at values
  cases run.symm.trans again
  have kept (i : Fin 16)
      (value : m.registers.computed w.x result flag i = (m.registers.get i).toNat) :
      t.machine.registers.get i = m.registers.get i :=
    UInt8.toNat_inj.mp (Int.ofNat_inj.mp ((values i).trans value))
  refine ⟨t, stepped, running, ?_, ?_, ?_⟩
  · rintro rfl
    rw [values, Registers.computed, Option.getD_none, ite_self, if_pos rfl]
  · rintro f rfl
    refine ⟨?_, fun other => ?_⟩
    · rw [values, Registers.computed, if_pos rfl, Option.getD_some]
    · rw [values, Registers.computed, if_neg other, if_pos rfl]
  · rintro i other (rfl | plain)
    · exact kept i (by rw [Registers.computed, Option.getD_none, ite_self, if_neg other])
    · exact kept i (by rw [Registers.computed, if_neg plain, if_neg other])

/-- A machine that is about to add the flag register, which holds `200`, to itself. -/
def atOwnSum : Machine :=
  (fresh (.keypad {}) (.repeating [])).session [.load [0x8F, 0xF4], .setRegister 15 200]

/-- Both operands are read before the carry takes the place of the sum. -/
theorem arithmetic_step_own_flag :
    ∃ t, atOwnSum.step Timers.noTime = .ok t ∧ t.outcome = .running ∧
      t.machine.registers.get 15 = 1 ∧ t.machine.registers.get 0 = 0 := by
  have fetched : atOwnSum.fetched? = some (.ofBytes 0x8F 0xF4) :=
    fetched_load _ Memory.initial 0x8F 0xF4 [] rfl rfl
  have sum : (atOwnSum.registers.get 15).toNat = 200 := by decide +kernel
  obtain ⟨t, stepped, running, _, flagged, kept⟩ :=
    arithmetic_step atOwnSum (.ofBytes 0x8F 0xF4) .add _ _ Timers.noTime {} 0
      ((due_iff _ _).mpr ⟨rfl, rfl, fetched⟩) ⟨rfl, rfl⟩ .add (Timers.update_noTime {} rfl)
  obtain ⟨flag, _⟩ := flagged _ rfl
  refine ⟨t, stepped, running, ?_, ?_⟩
  · refine UInt8.toNat_inj.mp (Int.ofNat_inj.mp (flag.trans (if_pos ?_)))
    exact sum ▸ by decide
  · exact (kept 0 (by decide) (.inr (by decide))).trans (by decide +kernel)

end Machine
end Chip8
