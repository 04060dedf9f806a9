import Chip8.Proofs.Machine.Session
import Chip8.Proofs.Timers

/-!
# Faults

What a step comes to is told from its digits, the program counter, the index register and the size
of the call stack.  A fault leaves the machine as it was before the step, apart from the timers, the
count of steps, the fault itself and the trace.
-/
namespace Chip8.Machine
open Memory (stretch Outside)
open Timers (noTime)

/-- The number of bytes that a word has to access from the index register on: the rows of a sprite,
the three digits of a number, or the registers `V0` to `VX`. -/
def accessLength (w : Opcode) : Nat :=
  if w.family = 0xD then w.n.val
  else if w.family = 0xF ∧ w.low = 0x33 then 3
  else if w.family = 0xF ∧ (w.low = 0x55 ∨ w.low = 0x65) then w.x.val + 1
  else 0

/-- The addresses of the bytes that the next step has to access. -/
def accesses (m : Machine) : List Int :=
  match m.fetched? with
  | none => stretch m.registers.pc 2
  | some w => stretch m.registers.pc 2 ++ stretch m.registers.index.toNat (accessLength w)

/-- Whether a byte that the next step has to access is outside memory. -/
def Misplaced (m : Machine) : Prop := ∃ a ∈ m.accesses, Outside a

/-- Whether the next step draws a sprite without rows from an address beyond the end of memory. -/
def DrawsNothingBeyond (m : Machine) : Prop :=
  ∃ w, m.fetched? = some w ∧ w.family = 0xD ∧ w.n.val = 0 ∧ 0x1000 < m.registers.index.toNat

/-- Whether the next step is a call with a full call stack. -/
def Overflows (m : Machine) : Prop :=
  ∃ w, m.fetched? = some w ∧ w.family = 0x2 ∧ m.registers.stack.entries.length = 16

/-- Whether the next step is a return with an empty call stack. -/
def Underflows (m : Machine) : Prop :=
  ∃ w, m.fetched? = some w ∧ w.value = 0x00EE ∧ m.registers.stack.entries = []

/-- Whether the next step finds the zero word. -/
def Ends (m : Machine) : Prop := ∃ w, m.fetched? = some w ∧ w.value = 0x0000

/-- The digits of a word tell the length of its block, as its operation does. -/
theorem accessLength_eq (w : Opcode) : accessLength w = (blockLength? w).getD 0 := by
  cases accessed : blockLength? w with
  | some length =>
    rcases blockLength?_cases w length accessed with
      ⟨op, size⟩ | ⟨op, size⟩ | ⟨op, size⟩ | ⟨op, size⟩ <;>
    · have fits := (w.operation_eq_iff _).mp op
      simp only [Operation.Fits] at fits
      simp [accessLength, fits, size]
  | none =>
    have draw : w.family ≠ 0xD := by
      intro family
      have op := w.operation_of_fits .draw family
      simp [blockLength?, op] at accessed
    have decimal : ¬ (w.family = 0xF ∧ w.low = 0x33) := by
      intro digits
      have op := w.operation_of_fits .storeDecimal digits
      simp [blockLength?, op] at accessed
    have registers : ¬ (w.family = 0xF ∧ (w.low = 0x55 ∨ w.low = 0x65)) := by
      rintro ⟨family, store | load⟩
      · have op := w.operation_of_fits .storeRegisters ⟨family, store⟩
        simp [blockLength?, op] at accessed
      · have op := w.operation_of_fits .loadRegisters ⟨family, load⟩
        simp [blockLength?, op] at accessed
    rw [accessLength, if_neg draw, if_neg decimal, if_neg registers, Option.getD_none]

/-! Each condition on the next step, as an obstacle to its word. -/

section Obstacles
variable (m : Machine) (w : Opcode)

theorem obstacle_memory_iff :
    (∃ e, Obstacle m w (.memory e)) ↔
      (∃ a ∈ stretch m.registers.index.toNat (accessLength w), Outside a) ∨
      (w.family = 0xD ∧ w.n.val = 0 ∧ 0x1000 < m.registers.index.toNat) := by
  rw [accessLength_eq]
  constructor
  · rintro ⟨_, obstacle⟩
    cases obstacle with
    | block length accessed outside =>
      rw [accessed, Option.getD_some]
      rcases (Memory.not_inBounds_iff _ _).mp outside with missing | ⟨rfl, beyond⟩
      · exact Or.inl missing
      · rcases blockLength?_cases w 0 accessed with ⟨op, size⟩ | ⟨_, size⟩ | ⟨_, size⟩ | ⟨_, size⟩
        · exact Or.inr ⟨(w.operation_eq_iff .draw).mp op, size.symm, beyond⟩
        · cases size
        · cases size
        · cases size
  · rintro (⟨a, within, outside⟩ | ⟨family, rows, beyond⟩)
    · cases accessed : blockLength? w with
      | none =>
        rw [accessed] at within
        cases within
      | some length =>
        rw [accessed] at within
        exact ⟨_, .block length accessed
          ((Memory.not_inBounds_iff _ _).mpr (Or.inl ⟨a, within, outside⟩))⟩
    · have op := w.operation_of_fits .draw family
      have accessed : blockLength? w = some 0 := by
        simp only [blockLength?, op, rows]
      exact ⟨_, .block 0 accessed ((Memory.not_inBounds_iff _ _).mpr (Or.inr ⟨rfl, beyond⟩))⟩

theorem obstacle_overflow_iff (sized : m.registers.stack.Sized) :
    (∃ depth, Obstacle m w (.stack (.overflow depth))) ↔
      w.family = 0x2 ∧ m.registers.stack.entries.length = 16 := by
  have depth := sized.depth
  have size := sized.size
  constructor
  · rintro ⟨_, obstacle⟩
    cases obstacle with
    | full op full =>
      unfold CallStack.size at full
      exact ⟨(w.operation_eq_iff .call).mp op, by omega⟩
  · rintro ⟨family, full⟩
    refine ⟨_, .full (w.operation_of_fits .call family) ?_⟩
    unfold CallStack.size
    omega

theorem obstacle_underflow_iff :
    Obstacle m w (.stack .underflow) ↔ w.value = 0x00EE ∧ m.registers.stack.entries = [] := by
  constructor
  · rintro (_ | ⟨op, empty⟩)
    exact ⟨(w.operation_eq_iff .ret).mp op, empty⟩
  · rintro ⟨value, empty⟩
    exact .empty (w.operation_of_fits .ret value) empty

/-- Nothing keeps a machine from the zero word. -/
theorem halt_free (v : Violation) (zero : w.value = 0x0000) : ¬ Obstacle m w v := by
  intro obstacle
  have operation := obstacle_operation m w v obstacle
  rw [w.operation_of_fits .halt zero] at operation
  simp at operation

end Obstacles

/-- Whether a reason keeps the next step from being carried out. -/
def Blocked (m : Machine) (r : FaultReason) : Prop :=
  (r = .memoryBounds ∧ m.fetched? = none) ∨
    ∃ w v, m.fetched? = some w ∧ Obstacle m w v ∧ v.reason = r

section Blocked
variable (m : Machine)

theorem blocked_memory_iff :
    m.Blocked .memoryBounds ↔ m.Misplaced ∨ m.DrawsNothingBeyond := by
  cases fetched : m.fetched? with
  | none =>
    have missing := (fetched_none_iff m).mp fetched
    have misplaced : m.Misplaced := by
      simpa only [Misplaced, accesses, fetched] using missing
    exact iff_of_true (Or.inl ⟨rfl, fetched⟩) (Or.inl misplaced)
  | some w =>
    -- the two bytes of the word are in memory, so only its block can be outside
    have present : ¬ ∃ a ∈ stretch m.registers.pc 2, Outside a := by
      rw [← fetched_none_iff, fetched]
      nofun
    have misplaced : m.Misplaced ↔
        ∃ a ∈ stretch m.registers.index.toNat (accessLength w), Outside a := by
      simp only [Misplaced, accesses, fetched, List.mem_append, or_and_right, exists_or]
      exact or_iff_right present
    have beyond : m.DrawsNothingBeyond ↔
        w.family = 0xD ∧ w.n.val = 0 ∧ 0x1000 < m.registers.index.toNat := by
      simp only [DrawsNothingBeyond, fetched, Option.some.injEq, exists_eq_left']
    rw [misplaced, beyond, ← obstacle_memory_iff]
    constructor
    · rintro (⟨_, none⟩ | ⟨u, v, again, obstacle, reason⟩)
      · rw [fetched] at none
        cases none
      · rw [fetched] at again
        cases again
        match v, reason with
        | .memory e, _ => exact ⟨e, obstacle⟩
    · rintro ⟨e, obstacle⟩
      exact Or.inr ⟨w, .memory e, fetched, obstacle, rfl⟩

theorem blocked_overflow_iff (sized : m.registers.stack.Sized) :
    m.Blocked .stackOverflow ↔ m.Overflows := by
  constructor
  · rintro (⟨none, _⟩ | ⟨w, v, fetched, obstacle, reason⟩)
    · cases none
    · match v, reason with
      | .stack (.overflow depth), _ =>
        exact ⟨w, fetched, (obstacle_overflow_iff m w sized).mp ⟨depth, obstacle⟩⟩
  · rintro ⟨w, fetched, full⟩
    obtain ⟨depth, obstacle⟩ := (obstacle_overflow_iff m w sized).mpr full
    exact Or.inr ⟨w, _, fetched, obstacle, rfl⟩

theorem blocked_underflow_iff : m.Blocked .stackUnderflow ↔ m.Underflows := by
  constructor
  · rintro (⟨none, _⟩ | ⟨w, v, fetched, obstacle, reason⟩)
    · cases none
    · match v, reason with
      | .stack .underflow, _ => exact ⟨w, fetched, (obstacle_underflow_iff m w).mp obstacle⟩
  · rintro ⟨w, fetched, empty⟩
    exact Or.inr ⟨w, _, fetched, (obstacle_underflow_iff m w).mpr empty, rfl⟩

/-- A word without an obstacle is not kept from being carried out. -/
theorem not_blocked (w : Opcode) (fetched : m.fetched? = some w) (free : ∀ v, ¬ Obstacle m w v)
    (r : FaultReason) : ¬ m.Blocked r := by
  rintro (⟨_, none⟩ | ⟨u, v, again, obstacle, _⟩)
  · rw [fetched] at none
    cases none
  · rw [fetched] at again
    cases again
    exact free v obstacle

theorem blocked_obstacle_iff (w : Opcode) (v : Violation) (fetched : m.fetched? = some w)
    (obstacle : Obstacle m w v) (r : FaultReason) : m.Blocked r ↔ v.reason = r := by
  constructor
  · rintro (⟨_, none⟩ | ⟨u, other, again, second, rfl⟩)
    · rw [fetched] at none
      cases none
    · rw [fetched] at again
      cases again
      rw [obstacle_unique m w v other obstacle second]
  · intro reason
    exact Or.inr ⟨w, v, fetched, obstacle, reason⟩

theorem ends_iff (w : Opcode) (fetched : m.fetched? = some w) : m.Ends ↔ w.value = 0x0000 := by
  simp only [Ends, fetched, Option.some.injEq, exists_eq_left']

end Blocked

theorem faultAt_agrees_iff (pc : Int) (v : Violation) (r : FaultReason) (detail : String) :
    (faultAt pc v).agrees (.fault r detail) ↔ v.reason = r := by
  simp only [faultAt, Outcome.fault, Outcome.agrees, decide_true, Bool.true_and, Option.some.injEq,
    decide_eq_true_eq]

/-- The outcome of a step of a machine that runs, by what keeps the step from being carried out. -/
theorem result_outcome (m after : Machine) (timers : Timers) (o : Outcome) (fault : m.fault = none)
    (waiting : m.waiting = none) (result : StepResult m timers after o) :
    (∀ r, o.agrees (.fault r "") ↔ m.Blocked r) ∧ (o = .halted ↔ m.Ends) ∧
    (o = .running ↔ (∀ r, ¬ m.Blocked r) ∧ ¬ m.Ends) := by
  cases fetched : m.fetched? with
  | none =>
    obtain ⟨rfl, _⟩ := result_unfetched fault waiting fetched result
    have blocked : ∀ r, m.Blocked r ↔ FaultReason.memoryBounds = r := by
      intro r
      simp [Blocked, fetched, eq_comm]
    have endless : ¬ m.Ends := by
      simp [Ends, fetched]
    refine ⟨fun r => ?_, iff_of_false nofun endless, iff_of_false nofun ?_⟩
    · rw [faultAt_agrees_iff, blocked]
      rfl
    · rintro ⟨unblocked, _⟩
      exact unblocked .memoryBounds ((blocked _).mpr rfl)
  | some w =>
    have ends := ends_iff m w fetched
    rcases result_fetched w fault waiting fetched result with
      ⟨rfl, zero, _⟩ | ⟨v, rfl, proper, obstacle, _⟩ | ⟨rfl, proper, free, _⟩
    · have unblocked := not_blocked m w fetched fun v => halt_free m w v zero
      refine ⟨fun r => iff_of_false nofun (unblocked r), iff_of_true rfl (ends.mpr zero),
        iff_of_false nofun ?_⟩
      rintro ⟨_, endless⟩
      exact endless (ends.mpr zero)
    · have blocked := blocked_obstacle_iff m w v fetched obstacle
      refine ⟨fun r => ?_, iff_of_false nofun (proper ∘ ends.mp), iff_of_false nofun ?_⟩
      · rw [faultAt_agrees_iff, blocked]
      · rintro ⟨unblocked, _⟩
        exact unblocked v.reason ((blocked _).mpr rfl)
    · have unblocked := not_blocked m w fetched free
      exact ⟨fun r => iff_of_false nofun (unblocked r), iff_of_false nofun (proper ∘ ends.mp),
        iff_of_true rfl ⟨unblocked, proper ∘ ends.mp⟩⟩

/-- The outcome of a step of a machine that runs, exactly. -/
theorem step_outcome_iff (m : Machine) (elapsed : Reading) (timers : Timers) (ticks : Nat)
    (reachable : m.Reachable) (fault : m.fault = none) (waiting : m.waiting = none)
    (accepted : m.timers.update elapsed = .ok (timers, ticks)) :
    ∃ t, m.step elapsed = .ok t ∧
      (t.outcome.agrees (.fault .memoryBounds "") ↔ m.Misplaced ∨ m.DrawsNothingBeyond) ∧
      (t.outcome.agrees (.fault .stackOverflow "") ↔ m.Overflows) ∧
      (t.outcome.agrees (.fault .stackUnderflow "") ↔ m.Underflows) ∧
      (t.outcome = .halted ↔ m.Ends) ∧
      (t.outcome = .running ↔ ¬ m.Misplaced ∧ ¬ m.DrawsNothingBeyond ∧ ¬ m.Overflows ∧
        ¬ m.Underflows ∧ ¬ m.Ends) := by
  obtain ⟨t, stepped, result⟩ := m.step_success elapsed timers ticks accepted
  obtain ⟨faults, halts, runs⟩ := result_outcome m _ timers _ fault waiting result
  have memory := blocked_memory_iff m
  have overflow := blocked_overflow_iff m reachable.sized
  have underflow := blocked_underflow_iff m
  refine ⟨t, stepped, (faults _).trans memory, (faults _).trans overflow,
    (faults _).trans underflow, halts, runs.trans ?_⟩
  rw [← overflow, ← underflow, ← and_assoc, ← not_or, ← memory]
  constructor
  · rintro ⟨unblocked, endless⟩
    exact ⟨unblocked _, unblocked _, unblocked _, endless⟩
  · rintro ⟨m₁, m₂, m₃, endless⟩
    refine ⟨fun r => ?_, endless⟩
    cases r <;> assumption

/-! A machine that is about to draw a sprite without rows from beyond the end of memory. -/

def atEmptySprite : Machine :=
  (fresh (.keypad {}) (.repeating [])).session [.load [0xD0, 0x00], .setIndex 0x1001]

theorem atEmptySprite_fetched : atEmptySprite.fetched? = some (.ofBytes 0xD0 0x00) :=
  fetched_load _ Memory.initial 0xD0 0x00 [] rfl rfl

theorem atEmptySprite_draws : atEmptySprite.DrawsNothingBeyond :=
  ⟨.ofBytes 0xD0 0x00, atEmptySprite_fetched, by decide, by decide, by decide⟩

theorem atEmptySprite_accepts : atEmptySprite.timers.update noTime = .ok ({}, 0) :=
  Timers.update_noTime {} rfl

theorem atEmptySprite_step :
    ∃ t, atEmptySprite.step noTime = .ok t ∧ t.outcome.agrees (.fault .memoryBounds "") := by
  obtain ⟨t, stepped, result⟩ := step_success _ _ _ _ atEmptySprite_accepts
  obtain ⟨faults, _⟩ := result_outcome _ _ _ _ rfl rfl result
  exact ⟨t, stepped, (faults _).mpr ((blocked_memory_iff _).mpr (Or.inr atEmptySprite_draws))⟩

/-- The sprite without rows is refused. -/
theorem step_outcome_emptySprite :
    ∃ t, atEmptySprite.step noTime = .ok t ∧ t.outcome.agrees (.fault .memoryBounds "") := by
  obtain ⟨t, stepped, memory, _⟩ := step_outcome_iff atEmptySprite noTime {} 0 ⟨_, _, _, rfl⟩ rfl rfl
    atEmptySprite_accepts
  exact ⟨t, stepped, memory.mpr (Or.inr atEmptySprite_draws)⟩

/-- It is refused although every byte that the step has to access is in memory. -/
theorem emptySprite_not_misplaced :
    atEmptySprite.Reachable ∧ atEmptySprite.fault = none ∧ atEmptySprite.waiting = none ∧
      ¬ atEmptySprite.Misplaced ∧
      ∃ t, atEmptySprite.step noTime = .ok t ∧ t.outcome.agrees (.fault .memoryBounds "") := by
  refine ⟨⟨_, _, _, rfl⟩, rfl, rfl, ?_, atEmptySprite_step⟩
  have accessed : atEmptySprite.accesses = [0x200, 0x201] := by
    rw [accesses, atEmptySprite_fetched]
    decide
  rw [Misplaced, accessed]
  decide

/-- The lines that join the trace, if it is switched on. -/
def traced (m : Machine) (lines : List TraceLine) : Array TraceLine :=
  if m.tracing then lines.toArray else #[]

theorem record_append (m : Machine) (line : TraceLine) :
    m.record line = { m with trace := m.trace ++ m.traced [line] } := by
  unfold record traced
  split
  · rw [Array.push_eq_append]
  · rw [Array.append_empty]

theorem failed_eq (m : Machine) (pc : Int) (v : Violation) :
    m.failed pc v = { m with
      fault := some (faultAt pc v), trace := m.trace ++ m.traced [.failed v] } := by
  unfold failed
  rw [record_append]

theorem traced_append (m : Machine) (first second : List TraceLine) :
    m.traced first ++ m.traced second = m.traced (first ++ second) := by
  unfold traced
  split
  · exact List.append_toArray first second
  · rfl

/-- A result that is a fault changes the timers, the count of steps, the fault and the trace. -/
theorem result_atomic (m after : Machine) (timers : Timers) (o : Outcome) (fault : m.fault = none)
    (result : StepResult m timers after o) (faulted : o.isFault) :
    ∃ lines, after = { m with
      timers, steps := m.steps + 1, fault := some o, trace := m.trace ++ m.traced lines } := by
  cases result with
  | stopped o latched =>
    rw [fault] at latched
    cases latched
  | idle | resumed | ended | carried => cases faulted
  | unfetched =>
    refine ⟨[.failed (.memory ⟨m.registers.pc, 2⟩)], ?_⟩
    rw [failed_eq]
    rfl
  | refused w v =>
    refine ⟨[.executed m.registers.pc w, .failed v], ?_⟩
    have lines := traced_append m [.executed m.registers.pc w] [.failed v]
    rw [List.singleton_append] at lines
    rw [failed_eq, record_append, ← lines, ← Array.append_assoc]
    rfl

/-- A step that comes to a fault changes the timers, the count of steps, the fault and the trace,
and nothing else. -/
theorem fault_atomic (m : Machine) (elapsed : Reading) (t : Transition) (fault : m.fault = none)
    (stepped : m.step elapsed = .ok t) (faulted : t.outcome.isFault) :
    ∃ timers ticks lines, m.timers.update elapsed = .ok (timers, ticks) ∧
      t.machine = { m with
        timers, steps := m.steps + 1, fault := some t.outcome,
        trace := m.trace ++ m.traced lines } := by
  obtain ⟨timers, ticks, accepted, result⟩ := m.step_result elapsed t stepped
  obtain ⟨lines, changed⟩ := result_atomic m _ timers _ fault result faulted
  exact ⟨timers, ticks, lines, accepted, changed⟩

/-- The refused sprite leaves the machine as it was. -/
theorem fault_atomic_emptySprite :
    ∃ t timers ticks lines, atEmptySprite.step noTime = .ok t ∧ t.outcome.isFault ∧
      atEmptySprite.timers.update noTime = .ok (timers, ticks) ∧
      t.machine = { atEmptySprite with
        timers, steps := 1, fault := some t.outcome,
        trace := atEmptySprite.trace ++ atEmptySprite.traced lines } := by
  obtain ⟨t, stepped, agrees⟩ := atEmptySprite_step
  have faulted : t.outcome.isFault := by
    simp only [Outcome.agrees, Outcome.fault, Bool.and_eq_true] at agrees
    exact agrees.1
  obtain ⟨timers, ticks, lines, accepted, changed⟩ :=
    fault_atomic atEmptySprite noTime t rfl stepped faulted
  exact ⟨t, timers, ticks, lines, stepped, faulted, accepted, changed⟩

end Chip8.Machine
