import Chip8.Proofs.Listing.Rows
import Chip8.Proofs.Machine.Records
import Chip8.Proofs.Machine.Stages
import Chip8.Proofs.Timers
import Mathlib.Data.List.Forall2

/-!
# The trace and the listing

While the trace is switched on, a step adds the line of the instruction that it executes and, if it
comes to a fault, what is wrong.  The line of an instruction is the one that a listing of memory has
at the program counter, and where memory still holds what was loaded it is a line of the listing of
the program.
-/
namespace Chip8

/-- Whether an action leaves a trace that is switched on as it is. -/
def HostAction.KeepsTrace : HostAction → Prop
  | .reset | .clearTrace => False
  | .switchTrace on => on
  | _ => True

namespace Machine

/-- The line of a listing of memory, from address zero on, for the word at the program counter. -/
def listedLine? (m : Machine) : Option String :=
  (({} : Listing.Lister).listOne m.memory.cells.toList m.registers.pc 0).map (·.2.line false)

/-- The lines that a step adds to the trace, by what it came to. -/
inductive Prints (m : Machine) (o : Outcome) : List String → Prop where
  | stopped (fault : m.fault ≠ none) : Prints m o []
  | waiting (fault : m.fault = none) (waiting : m.waiting ≠ none) : Prints m o []
  | ended (w : Opcode) (due : m.due? = some w) (zero : w.value = 0) (outcome : o = .halted) :
    Prints m o []
  | executed (w : Opcode) (line : String) (due : m.due? = some w) (proper : w.value ≠ 0)
    (listed : m.listedLine? = some line) (outcome : o = .running) : Prints m o [line]
  | broken (w : Opcode) (v : Violation) (line : String) (due : m.due? = some w)
    (proper : w.value ≠ 0) (listed : m.listedLine? = some line)
    (outcome : o = faultAt m.registers.pc v) : Prints m o [line, "  ERROR: " ++ v.message]
  | unfetched (v : Violation) (fault : m.fault = none) (waiting : m.waiting = none)
    (missing : m.fetched? = none) (outcome : o = faultAt m.registers.pc v) :
    Prints m o ["  ERROR: " ++ v.message]

/-- Whether the word at the program counter is the one at an even offset of an image that was
loaded. -/
structure Unmodified (m : Machine) (image : List UInt8) (k : Nat) : Prop where
  counter : m.registers.pc = (Memory.programStart + 2 * k : Nat)
  high : m.memory.byte? m.registers.pc = image[2 * k]?
  low : m.memory.byte? (m.registers.pc + 1) = image[2 * k + 1]?

/-- Two faults at one address with the same outcome have the same message. -/
theorem faultAt_message {pc : Int} {u v : Violation} (same : faultAt pc u = faultAt pc v) :
    u.message = v.message :=
  (String.append_right_inj _).mp (congrArg Outcome.detail same)

section Lines
variable {m : Machine} {w : Opcode}

/-- The line of a word that is fetched is the same in a listing of memory and in the trace. -/
theorem listedLine?_fetched (fetched : m.fetched? = some w) :
    m.listedLine? = some (TraceLine.executed m.registers.pc w).text := by
  obtain ⟨high, low, first, second, rfl⟩ := fetched_bytes m w fetched
  have within := fetched_within m _ fetched
  obtain ⟨i, counter⟩ := Int.eq_ofNat_of_zero_le within.1
  rw [counter] at first second ⊢
  rw [Memory.byte?_natCast] at first
  rw [← Int.natCast_succ, Memory.byte?_natCast] at second
  obtain ⟨_, high_eq⟩ := List.getElem?_eq_some_iff.mp first
  obtain ⟨inside, low_eq⟩ := List.getElem?_eq_some_iff.mp second
  rw [listedLine?, counter, Listing.Lister.listOne, Listing.row?_natCast _ i 0 inside, high_eq, low_eq,
    Int.zero_add]
  exact congrArg some (Listing.line_ofWord i high low)

/-- Where memory holds what was loaded, that is a line of the listing of the program. -/
theorem lines_unmodified {image : List UInt8} {k : Nat} (fetched : m.fetched? = some w)
    (same : m.Unmodified image k) :
    (Listing.lines false Memory.programStart image)[k]? =
      some (TraceLine.executed m.registers.pc w).text := by
  obtain ⟨high, low, first, second, rfl⟩ := fetched_bytes m w fetched
  rw [same.high] at first
  rw [same.low] at second
  obtain ⟨_, high_eq⟩ := List.getElem?_eq_some_iff.mp first
  obtain ⟨inside, low_eq⟩ := List.getElem?_eq_some_iff.mp second
  have address : (Memory.programStart : Int) + (2 * k : Nat) = m.registers.pc := by
    rw [same.counter, Int.natCast_add]
  rw [Listing.lines, List.getElem?_map, Listing.rows_getElem? _ _ _ inside, high_eq, low_eq, address]
  exact congrArg some (Listing.line_ofWord _ high low)

end Lines

section Step
variable {m after : Machine} {timers : Timers} {o : Outcome}

theorem traceLines_record (tracing : m.tracing = true) (line : TraceLine) :
    (m.record line).traceLines = m.traceLines ++ [line.text] := by
  simp only [record, traceLines, tracing, if_true, Array.toList_push, List.map_append, List.map_cons,
    List.map_nil]

/-- A step adds its lines to the trace. -/
theorem StepResult.printed (result : StepResult m timers after o) (tracing : m.tracing = true) :
    after.tracing = true ∧ ∃ lines, m.Prints o lines ∧ after.traceLines = m.traceLines ++ lines := by
  have begun : (m.begun timers).traceLines = m.traceLines := rfl
  have nothing : m.traceLines = m.traceLines ++ [] := (List.append_nil _).symm
  cases result with
  | stopped o fault =>
    refine ⟨tracing, [], .stopped ?_, nothing⟩
    rw [fault]
    nofun
  | idle x fault waiting | resumed x _ fault waiting =>
    refine ⟨tracing, [], .waiting fault ?_, nothing⟩
    rw [waiting]
    nofun
  | ended w fault waiting fetched zero =>
    have due := (due_iff m w).mpr ⟨fault, waiting, fetched⟩
    exact ⟨tracing, [], .ended w due zero rfl, nothing⟩
  | unfetched fault waiting missing =>
    refine ⟨?_, _, .unfetched _ fault waiting missing rfl, ?_⟩
    · rw [failed, record_eq]
      exact tracing
    · exact traceLines_record (m := m.begun timers) tracing _
  | refused w v fault waiting fetched proper obstacle =>
    have due := (due_iff m w).mpr ⟨fault, waiting, fetched⟩
    refine ⟨?_, _, .broken w v _ due proper (listedLine?_fetched fetched) rfl, ?_⟩
    · rw [failed, record_eq, record_eq]
      exact tracing
    · have first := traceLines_record (m := m.begun timers) tracing (.executed m.registers.pc w)
      have second := traceLines_record
        (m := (m.begun timers).record (.executed m.registers.pc w))
        (by rw [record_eq]; exact tracing) (.failed v)
      rw [first, begun, List.append_assoc] at second
      exact second
  | carried w after fault waiting fetched proper free run flow =>
    have due := (due_iff m w).mpr ⟨fault, waiting, fetched⟩
    have same := execute_sameRecords _ after w run
    refine ⟨?_, _, .executed w _ due proper (listedLine?_fetched fetched) rfl, ?_⟩
    · rw [same.tracing, record_eq]
      exact tracing
    · rw [traceLines, same.trace]
      exact traceLines_record (m := m.begun timers) tracing _

/-- The lines of a step that executes an instruction where memory holds what was loaded begin with a
line of the listing of the program. -/
theorem Prints.unmodified {lines image : List _} {w : Opcode} {k : Nat} (prints : m.Prints o lines)
    (due : m.due? = some w) (proper : w.value ≠ 0) (same : m.Unmodified image k) :
    lines.head? = (Listing.lines false Memory.programStart image)[k]? := by
  obtain ⟨fault, waiting, fetched⟩ := (due_iff m w).mp due
  have listed := listedLine?_fetched fetched
  rw [lines_unmodified fetched same, ← listed]
  cases prints with
  | stopped stopped => exact absurd fault stopped
  | waiting _ waits => exact absurd waiting waits
  | ended v again zero _ =>
    rw [due] at again
    cases again
    exact absurd zero proper
  | executed _ line _ _ listed _ => exact listed.symm
  | broken _ _ line _ _ listed _ => exact listed.symm
  | unfetched _ _ _ missing _ =>
    rw [fetched] at missing
    cases missing

end Step

/-- An action that keeps the trace and carries out no step leaves it as it is. -/
theorem perform_traceLines (m : Machine) (a : HostAction) (keeps : a.KeepsTrace)
    (tracing : m.tracing = true) (none : m.stage? a = none) :
    (m.perform a).tracing = true ∧ (m.perform a).traceLines = m.traceLines := by
  cases a with
  | step elapsed =>
    rw [perform_unstaged m elapsed none]
    exact ⟨tracing, rfl⟩
  | reset | clearTrace => exact keeps.elim
  | switchTrace on => exact ⟨keeps, rfl⟩
  | load image =>
    simp only [perform, load]
    cases m.memory.load image <;> exact ⟨tracing, rfl⟩
  | keypad _ | setRegister _ _ | write _ _ =>
    simp only [perform]
    split <;> exact ⟨tracing, rfl⟩
  | addBreakpoint address =>
    obtain ⟨breakpoints, added⟩ := m.addBreakpoint_eq address
    rw [perform, added]
    exact ⟨tracing, rfl⟩
  | _ => exact ⟨tracing, rfl⟩

/-- While the trace is switched on and not cleared, it is the lines of the steps, one after the
other: for each instruction that a step executes the line that a listing of memory has for it, and
for a fault what is wrong.  Where memory holds what was loaded, the line is the one of the listing of
the program. -/
theorem trace_listed (m : Machine) (actions : List HostAction) (tracing : m.tracing = true)
    (keeps : ∀ a ∈ actions, a.KeepsTrace) :
    ∃ printed : List (List String),
      (m.session actions).traceLines = m.traceLines ++ printed.flatten ∧
      List.Forall₂ (fun s lines => s.start.Prints s.result.outcome lines ∧
        ∀ w image k, s.start.due? = some w → w.value ≠ 0 → s.start.Unmodified image k →
          lines.head? = (Listing.lines false Memory.programStart image)[k]?)
        (m.stages actions) printed := by
  induction actions generalizing m with
  | nil => exact ⟨[], (List.append_nil _).symm, .nil⟩
  | cons a rest ih =>
    have keepsRest : ∀ b ∈ rest, b.KeepsTrace := fun b member => keeps b (List.mem_cons_of_mem a member)
    rw [session_cons, stages]
    cases stage : m.stage? a with
    | none =>
      obtain ⟨still, same⟩ := m.perform_traceLines a (keeps a List.mem_cons_self) tracing stage
      obtain ⟨printed, lines, prints⟩ := ih (m.perform a) still keepsRest
      exact ⟨printed, by rw [lines, same], prints⟩
    | some s =>
      obtain ⟨elapsed, _, start, stepped, left⟩ := m.stage?_eq_some a s stage
      obtain ⟨timers, _, _, result⟩ := m.step_result elapsed s.result stepped
      obtain ⟨still, first, prints, added⟩ := result.printed tracing
      obtain ⟨printed, lines, later⟩ := ih (m.perform a) (by rw [left]; exact still) keepsRest
      refine ⟨first :: printed, ?_, .cons ⟨?_, ?_⟩ later⟩
      · rw [lines, left, added, List.flatten_cons, List.append_assoc]
      · rw [start]
        exact prints
      · rw [start]
        intro w image k
        exact prints.unmodified

/-! A program that returns although nothing was called. -/

/-- The machine at the return, with its trace switched on. -/
def atReturn : Machine :=
  (fresh (.keypad {}) (.repeating [])).session [.load [0x00, 0xEE], .switchTrace true]

theorem atReturn_fetched : atReturn.fetched? = some (.ofBytes 0x00 0xEE) :=
  fetched_load _ Memory.initial 0x00 0xEE [] rfl rfl

theorem atReturn_due : atReturn.due? = some (.ofBytes 0x00 0xEE) :=
  (due_iff _ _).mpr ⟨rfl, rfl, atReturn_fetched⟩

/-- The trace has the line of the program's listing, and what is wrong. -/
theorem trace_listed_return :
    (atReturn.session [.step Timers.noTime]).traceLines =
      ["$200: 00EE  RET", "  ERROR: Cannot return with an empty call stack"] := by
  obtain ⟨t, stepped, result⟩ := atReturn.step_success Timers.noTime {} 0 (Timers.update_noTime {} rfl)
  have empty : Obstacle atReturn (.ofBytes 0x00 0xEE) (.stack .underflow) :=
    .empty (by decide) rfl
  obtain ⟨outcome, _⟩ := result_refused atReturn_due (by decide) empty result
  have steps : atReturn.stages [.step Timers.noTime] = [⟨atReturn, t⟩] := by
    simp only [stages, stage?, stepped, Except.toOption, Option.map_some, Option.toList_some,
      List.append_nil]
  obtain ⟨printed, lines, prints⟩ :=
    trace_listed atReturn [.step Timers.noTime] rfl (by simp [HostAction.KeepsTrace])
  rw [steps] at prints
  obtain ⟨group, _, ⟨first, listed⟩, none, rfl⟩ := List.forall₂_cons_left_iff.mp prints
  cases List.forall₂_nil_left_iff.mp none
  have program : atReturn.Unmodified [0x00, 0xEE] 0 :=
    ⟨rfl, Memory.byte?_load Memory.initial _ [0x00, 0xEE] rfl 0 (by decide),
      Memory.byte?_load Memory.initial _ [0x00, 0xEE] rfl 1 (by decide)⟩
  have shown : group.head? = some "$200: 00EE  RET" :=
    (listed _ _ 0 atReturn_due (by decide) program).trans (by decide +kernel)
  rw [outcome] at first
  rw [lines]
  cases first with
  | stopped fault => exact absurd rfl fault
  | waiting _ waiting => exact absurd rfl waiting
  | ended _ _ _ halted => cases halted
  | executed _ _ _ _ _ running => cases running
  | broken w v line _ _ _ outcome =>
    cases shown
    rw [← faultAt_message outcome]
    rfl
  | unfetched _ _ _ missing _ =>
    rw [atReturn_fetched] at missing
    cases missing

end Machine
end Chip8
