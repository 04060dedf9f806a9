import Chip8.Proofs.Machine.Bounded
import Chip8.Proofs.Machine.Footprint
import Chip8.Proofs.Timers

/-!
# Nested calls

A step pushes a return address, takes one off, or leaves the call stack alone, and the keypad never
touches it.  So what a call has found on the stack stays below its return address until that is
taken off, and the step that takes it off goes to it.
-/
namespace Chip8.Machine

/-- What a step can do to the call stack, and the word that it carries out then. -/
inductive StackChange (m after : Machine) : Prop where
  | kept (same : after.registers.stack = m.registers.stack)
  | called (w : Opcode) (due : m.due? = some w) (family : w.family = 0x2)
    (pushed : m.registers.stack.push (m.registers.pc + 2) = .ok after.registers.stack)
  | returned (w : Opcode) (due : m.due? = some w) (value : w.value = 0x00EE) (address : UInt16)
    (popped : m.registers.stack.pop = .ok (address, after.registers.stack))
    (counter : after.registers.pc = address.toNat)

/-- Whether the entries that a call has found, and its return address, are still on the stack. -/
structure Inside (home : CallStack) (address : UInt16) (m : Machine) : Prop where
  entries : address :: home.entries <:+ m.registers.stack.entries
  depth : m.registers.stack.depth = home.depth

/-- Whether the stack stays deeper than a number of entries all through a session. -/
def StaysDeeper (m : Machine) (size : Nat) (actions : List HostAction) : Prop :=
  ∀ before, before <+: actions → size < (m.session before).registers.stack.size

section Step
variable {m after : Machine} {timers : Timers} {o : Outcome} {w : Opcode}

/-- A call with room on the stack is carried out. -/
theorem result_called (due : m.due? = some w) (family : w.family = 0x2)
    (room : (m.registers.stack.size : Int) < m.registers.stack.depth)
    (result : StepResult m timers after o) :
    o = .running ∧ ∃ stack, m.registers.stack.push (m.registers.pc + 2) = .ok stack ∧
      after = (((m.begun timers).record (.executed m.registers.pc w)).withStack stack).jump
        w.nnn := by
  have op := w.operation_of_fits .call family
  have proper : w.value ≠ 0 := by
    intro zero
    rw [Opcode.family, zero] at family
    exact absurd family (by decide)
  have free : ∀ v, ¬ Obstacle m w v := by
    intro v obstacle
    cases obstacle with
    | full _ full => omega
    | empty other _ =>
      rw [op] at other
      cases other
    | block length accessed _ => simp [blockLength?, op] at accessed
  obtain ⟨running, run⟩ := result_carries ⟨due, proper, free⟩ result
  obtain ⟨stack, pushed, moved⟩ := execute_called op run
  rw [record_registers] at pushed
  exact ⟨running, stack, pushed, moved⟩

/-- A return with something on the stack is carried out. -/
theorem result_returned (due : m.due? = some w) (value : w.value = 0x00EE) (address : UInt16)
    (stack : CallStack) (popped : m.registers.stack.pop = .ok (address, stack))
    (result : StepResult m timers after o) :
    o = .running ∧ after = (((m.begun timers).record (.executed m.registers.pc w)).withStack
      stack).jump address.toNat := by
  have op := w.operation_of_fits .ret value
  have proper : w.value ≠ 0 := by rw [value]; decide
  have free : ∀ v, ¬ Obstacle m w v := by
    intro v obstacle
    cases obstacle with
    | full other _ =>
      rw [op] at other
      cases other
    | empty _ none =>
      rw [CallStack.pop, none] at popped
      cases popped
    | block length accessed _ => simp [blockLength?, op] at accessed
  obtain ⟨running, run⟩ := result_carries ⟨due, proper, free⟩ result
  obtain ⟨top, rest, again, moved⟩ := execute_returned op run
  rw [record_registers, begun_registers, popped] at again
  cases again
  exact ⟨running, moved⟩

theorem result_stackChange (result : StepResult m timers after o) : StackChange m after := by
  cases result with
  | stopped | idle | resumed | ended => exact .kept rfl
  | unfetched =>
    refine .kept ?_
    rw [failed, record_eq]
    rfl
  | refused =>
    refine .kept ?_
    rw [failed, record_eq, record_eq]
    rfl
  | carried w after fault waiting fetched _ _ run _ =>
    have due := (m.due_iff w).mpr ⟨fault, waiting, fetched⟩
    have same : ((m.begun timers).record (.executed m.registers.pc w)).registers = m.registers := by
      rw [record_registers, begun_registers]
    by_cases call : w.operation = .call
    · obtain ⟨stack, pushed, rfl⟩ := execute_called call run
      rw [same] at pushed
      exact .called w due ((w.operation_eq_iff .call).mp call) pushed
    · by_cases ret : w.operation = .ret
      · obtain ⟨address, stack, popped, rfl⟩ := execute_returned ret run
        rw [same] at popped
        exact .returned w due ((w.operation_eq_iff .ret).mp ret) address popped rfl
      · have unchanged := (execute_footprint run).stack (by simp [call, ret])
        rw [same] at unchanged
        exact .kept unchanged

/-- The step that takes the return address off is a return to it; every other one leaves it and
what is below it where they are. -/
theorem StackChange.inside {home : CallStack} {address : UInt16} (change : StackChange m after)
    (inside : Inside home address m) :
    Inside home address after ∨
    (after.registers.stack = home ∧ after.registers.pc = address.toNat ∧
      ∃ w, m.due? = some w ∧ w.value = 0x00EE) := by
  cases change with
  | kept same =>
    left
    exact ⟨same ▸ inside.entries, same ▸ inside.depth⟩
  | called _ _ _ pushed =>
    left
    obtain ⟨_, pushed⟩ := CallStack.push_success _ _ _ pushed
    refine ⟨?_, ?_⟩
    · rw [pushed]
      exact inside.entries.trans (List.suffix_cons _ _)
    · rw [pushed]
      exact inside.depth
  | returned w due value top popped counter =>
    obtain ⟨entries, depth⟩ := CallStack.pop_success _ _ _ popped
    have kept := inside.entries
    rw [entries, List.suffix_cons_iff] at kept
    rcases kept with last | deeper
    · right
      injection last with top_eq rest
      refine ⟨?_, by rw [counter, top_eq], w, due, value⟩
      have depth := depth.trans inside.depth
      cases home
      cases stack : after.registers.stack
      simp_all
    · left
      exact ⟨deeper, depth.trans inside.depth⟩

end Step

/-- Only a step can change the call stack, and it does so as a call or as a return. -/
theorem perform_stackChange (m : Machine) (a : HostAction) (continues : a.Continues) :
    (m.perform a).registers.stack = m.registers.stack ∨
    ∃ r u, a = .step r ∧ m.step r = .ok u ∧ m.perform a = u.machine ∧ StackChange m u.machine := by
  cases a with
  | step r =>
    cases stepped : m.step r with
    | error e =>
      left
      simp only [perform, stepped]
    | ok u =>
      right
      obtain ⟨_, _, _, result⟩ := m.step_result r u stepped
      exact ⟨r, u, rfl, stepped, by simp only [perform, stepped], result_stackChange result⟩
  | keypad a =>
    left
    simp only [perform]
    split <;> rfl
  | _ => exact continues.elim

section Run
variable {home : CallStack} {address : UInt16} {m : Machine}

theorem Inside.size (inside : Inside home address m) : home.size < m.registers.stack.size := by
  have entries := inside.entries.length_le
  rw [List.length_cons] at entries
  exact entries

/-- An action within a call stays within it, or it is the return from it. -/
theorem Inside.perform (inside : Inside home address m) (a : HostAction) (continues : a.Continues) :
    Inside home address (m.perform a) ∨
    ((m.perform a).registers.stack = home ∧ (m.perform a).registers.pc = address.toNat ∧
      ∃ r u w, a = .step r ∧ m.step r = .ok u ∧ m.due? = some w ∧ w.value = 0x00EE) := by
  rcases m.perform_stackChange a continues with same | ⟨r, u, step, stepped, left, change⟩
  · exact Or.inl ⟨same ▸ inside.entries, same ▸ inside.depth⟩
  · rw [left]
    rcases change.inside inside with still | ⟨stack, counter, w, due, value⟩
    · exact Or.inl still
    · exact Or.inr ⟨stack, counter, r, u, w, step, stepped, due, value⟩

/-- A session that stays deeper than the call was made stays within it. -/
theorem Inside.session (inside : Inside home address m) (actions : List HostAction)
    (continues : ∀ a ∈ actions, a.Continues) (deeper : m.StaysDeeper home.size actions) :
    Inside home address (m.session actions) := by
  induction actions generalizing m with
  | nil => exact inside
  | cons a rest ih =>
    have first := inside.perform a (continues a List.mem_cons_self)
    rcases first with still | ⟨back, _⟩
    · refine ih still (fun b member => continues b (List.mem_cons_of_mem a member)) ?_
      intro before early
      exact deeper (a :: before) ((List.prefix_cons_inj a).mpr early)
    · have after := deeper [a] ((List.prefix_cons_inj a).mpr List.nil_prefix)
      rw [session_cons] at after
      have none : ((m.perform a).session []).registers.stack = home := back
      rw [none] at after
      exact absurd after (Nat.lt_irrefl _)

end Run

/-- A call with room on the stack pushes the address behind it.  While the stack stays deeper than
before the call, what was on it and that address stay at its bottom, and the first action that ends
this is the step that returns to that address and leaves the stack as it was before the call. -/
theorem calls_nest (m : Machine) (w : Opcode) (elapsed : Reading) (t : Transition)
    (actions : List HostAction) (reachable : m.Reachable) (due : m.due? = some w)
    (call : w.family = 0x2) (room : m.registers.stack.size < 16)
    (stepped : m.step elapsed = .ok t) (continues : ∀ a ∈ actions, a.Continues) :
    let home := m.registers.stack
    t.outcome = .running ∧
    ∃ address : UInt16, (address.toNat : Int) = m.registers.pc + 2 ∧
      t.machine.registers.stack.bottomFirst = home.bottomFirst ++ [address] ∧
      (t.machine.StaysDeeper home.size actions →
        home.bottomFirst ++ [address] <+:
          (t.machine.session actions).registers.stack.bottomFirst) ∧
      ∀ before a, actions = before ++ [a] → t.machine.StaysDeeper home.size before →
        (t.machine.session actions).registers.stack.size ≤ home.size →
        (∃ r u v, a = .step r ∧ (t.machine.session before).step r = .ok u ∧
          (t.machine.session before).due? = some v ∧ v.value = 0x00EE) ∧
        (t.machine.session actions).registers.pc = m.registers.pc + 2 ∧
        (t.machine.session actions).registers.stack = home := by
  intro home
  obtain ⟨timers, _, _, result⟩ := m.step_result elapsed t stepped
  have full : (m.registers.stack.size : Int) < m.registers.stack.depth := by
    rw [reachable.sized.depth]
    omega
  obtain ⟨running, stack, pushed, moved⟩ := result_called due call full result
  obtain ⟨_, rfl⟩ := CallStack.push_success _ _ _ pushed
  have within := fetched_within m w ((m.due_iff w).mp due).2.2
  have address := toNat_ofInt_of_lt (m.registers.pc + 2) (by omega) (by omega)
  have inside : Inside home (.ofInt (m.registers.pc + 2)) t.machine := by
    rw [moved]
    exact ⟨List.suffix_refl _, rfl⟩
  refine ⟨running, .ofInt (m.registers.pc + 2), address, ?_, ?_, ?_⟩
  · rw [moved]
    exact List.reverse_cons
  · intro deeper
    have bottom := (inside.session actions continues deeper).entries
    rw [← List.reverse_prefix, List.reverse_cons] at bottom
    exact bottom
  · rintro before a rfl deeper shallow
    have still := inside.session before
      (fun b member => continues b (List.mem_append_left _ member)) deeper
    have last := continues a (List.mem_append_right _ List.mem_cons_self)
    rw [session_append] at shallow ⊢
    rcases still.perform a last with deep | ⟨back, counter, return_⟩
    · exact absurd shallow (Nat.not_le_of_lt deep.size)
    · exact ⟨return_, counter.trans address, back⟩

/-! A program that calls the subroutine behind it, which returns at once. -/

/-- The machine at the call. -/
def atCall : Machine :=
  (fresh (.keypad {}) (.repeating [])).session [.load [0x22, 0x02, 0x00, 0xEE]]

theorem atCall_eq : atCall = { fresh (.keypad {}) (.repeating []) with
    memory := freshMemory [0x22, 0x02, 0x00, 0xEE], program := [0x22, 0x02, 0x00, 0xEE] } :=
  session_load _ _ _ (by decide)

theorem atCall_load : Memory.initial.load [0x22, 0x02, 0x00, 0xEE] = .ok atCall.memory := by
  rw [atCall_eq]
  exact freshMemory_load _ (by decide)

theorem atCall_due : atCall.due? = some (.ofBytes 0x22 0x02) := by
  have fetched : atCall.fetched? = some (.ofBytes 0x22 0x02) :=
    fetched_load _ _ _ _ _ atCall_load (by rw [atCall_eq]; rfl)
  exact (due_iff _ _).mpr ⟨by rw [atCall_eq]; rfl, by rw [atCall_eq]; rfl, fetched⟩

/-- The machine when the call has been carried out. -/
theorem atCall_called {after : Machine} {o : Outcome} (result : StepResult atCall {} after o) :
    after.due? = some (.ofBytes 0x00 0xEE) ∧ after.timers = {} ∧
      after.registers.stack = { entries := [0x202] } := by
  have room : (atCall.registers.stack.size : Int) < atCall.registers.stack.depth := by
    rw [atCall_eq]
    decide
  obtain ⟨_, stack, pushed, rfl⟩ := result_called atCall_due (by decide) room result
  obtain ⟨_, rfl⟩ := CallStack.push_success _ _ _ pushed
  rw [record_eq]
  have fault : atCall.fault = none := by
    rw [atCall_eq]
    rfl
  have waiting : atCall.waiting = none := by
    rw [atCall_eq]
    rfl
  have target : ((Opcode.ofBytes 0x22 0x02).nnn : Int) = (Memory.programStart + 2 : Nat) := by
    decide
  refine ⟨(due_iff _ _).mpr ⟨fault, waiting, ?_⟩, rfl, ?_⟩
  · refine fetched_image _ Memory.initial [0x22, 0x02, 0x00, 0xEE] ?_ 2 (by decide) ?_
    · exact atCall_load
    · exact target
  · rw [atCall_eq]
    rfl

/-- The call and the return to the address behind it. -/
theorem calls_nest_return :
    ∃ t, atCall.step Timers.noTime = .ok t ∧
      t.machine.registers.stack.bottomFirst = [0x202] ∧
      (t.machine.session [.step Timers.noTime]).registers.pc = 0x202 ∧
      (t.machine.session [.step Timers.noTime]).registers.stack.entries = [] := by
  have room : atCall.registers.stack.size < 16 := by
    rw [atCall_eq]
    decide
  have accepted := Timers.update_noTime {} rfl
  obtain ⟨t, stepped, result⟩ :=
    atCall.step_success Timers.noTime {} 0 (by rw [atCall_eq]; exact accepted)
  obtain ⟨due, timers, stack⟩ := atCall_called result
  obtain ⟨u, again, last⟩ :=
    t.machine.step_success Timers.noTime {} 0 (by rw [timers]; exact accepted)
  obtain ⟨_, returned⟩ := result_returned due (by decide) 0x202 {} (by rw [stack]; rfl) last
  have after : t.machine.session [.step Timers.noTime] = u.machine := by
    rw [session_cons, perform, again]
    rfl
  obtain ⟨_, address, counted, bottom, _, ends⟩ := calls_nest atCall (.ofBytes 0x22 0x02)
    Timers.noTime t [.step Timers.noTime] ⟨_, _, _, rfl⟩ atCall_due (by decide) room stepped
    (by simp [HostAction.Continues])
  have deeper : t.machine.StaysDeeper atCall.registers.stack.size [] := by
    intro before empty
    rw [List.prefix_nil.mp empty]
    have one : (t.machine.session []).registers.stack.size = 1 := by
      have same : t.machine.session [] = t.machine := rfl
      rw [same, stack]
      rfl
    rw [one, atCall_eq]
    decide
  obtain ⟨_, counter, home⟩ := ends [] (.step Timers.noTime) rfl deeper (by
    rw [after, returned]
    exact Nat.zero_le _)
  refine ⟨t, stepped, ?_, ?_, ?_⟩
  · rw [stack]
    rfl
  · rw [counter, atCall_eq]
    rfl
  · rw [home, atCall_eq]
    rfl

end Chip8.Machine
