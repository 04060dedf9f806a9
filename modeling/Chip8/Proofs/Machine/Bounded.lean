import Chip8.Proofs.Machine.Session

/-!
# What stays within bounds

While a loaded program is played, every part of the machine stays within its bounds.  The program
counter and the call stack bound each other: a return address is the end of a word that was fetched,
and a return goes to such an address.  A machine that waits for a key stays at the instruction that
waits, because a wait moves neither the program counter nor memory.
-/
namespace Chip8.Machine

/-- The bounds of a machine with a keypad.  Since the program counter is small, no operation on it
loses a bit to its sixteen bits; and an access to a block has the length that was asked for, so that
it replaces as many bytes as it brings. -/
structure Bounded (m : Machine) : Prop where
  cells : m.memory.cells.toList.length = 4096
  registers : m.registers.v.toList.length = 16
  index : m.registers.index.toNat ≤ 0xFFFF
  counter : 0 ≤ m.registers.pc ∧ m.registers.pc ≤ 0x10FE
  depth : m.registers.stack.size ≤ 16
  returns : ∀ a ∈ m.registers.stack.entries, 2 ≤ a.toNat ∧ a.toNat ≤ 0x1000
  advanced : ∀ count, count = 1 ∨ count = 2 →
    (m.registers.advance count).pc = m.registers.pc + 2 * count
  pushed : ∀ stack, m.registers.stack.push (m.registers.pc + 2) = .ok stack →
    stack.entries.map (fun a => (a.toNat : Int)) =
      (m.registers.pc + 2) :: m.registers.stack.entries.map (fun a => (a.toNat : Int))
  offset : ∀ w : Opcode, ((w.nnn : Int) + m.registers.offset.toNat) % 65536 =
    w.nnn + m.registers.offset.toNat
  read : ∀ (length : Nat) (data : List UInt8),
    m.memory.readStretch m.registers.index.toNat length = .ok data → data.length = length
  written : ∀ (data : List UInt8) (after : Memory),
    m.memory.writeBlock m.registers.index.toNat data = .ok after →
      m.registers.index.toNat + data.length ≤ 4096
  screen : m.screen.cells.toList.length = 2048 ∧ ∀ lit ∈ m.screen.cells.toList, lit.toNat ≤ 1
  timers : m.timers.delay.toNat ≤ 255 ∧ m.timers.sound.toNat ≤ 255
  keypad : ∃ k, m.input = .keypad k ∧ k.events.length ≤ 16 ∧ ∀ key ∈ k.events, key.val ≤ 15
  parked : ∀ x, m.waiting = some x → m.fault = none ∧ m.AtWait x

/-- The part of the bounds that each action keeps because of the others. -/
structure Invariant (m : Machine) : Prop where
  counter : 0 ≤ m.registers.pc ∧ m.registers.pc ≤ 0x10FE
  stack : m.registers.stack.Sized
  returns : ∀ a ∈ m.registers.stack.entries, 2 ≤ a.toNat ∧ a.toNat ≤ 0x1000
  keypad : ∃ k, m.input = .keypad k ∧ k.events.length ≤ Keypad.capacity
  parked : ∀ x, m.waiting = some x → m.fault = none ∧ m.AtWait x

/-- An address below `$10000` is its low sixteen bits. -/
theorem toNat_ofInt_of_lt (address : Int) (lower : 0 ≤ address) (upper : address < 65536) :
    ((UInt16.ofInt address).toNat : Int) = address := by
  rw [Opcode.toNat_ofInt16]
  omega

theorem nnn_lt (w : Opcode) : w.nnn < 0x1000 := Nat.mod_lt _ (by decide)

/-- The invariant gives all bounds. -/
theorem Invariant.bounded {m : Machine} (kept : m.Invariant) : m.Bounded where
  cells := m.memory.cells.length_toList
  registers := m.registers.v.length_toList
  index := by
    have := m.registers.index.toNat_lt
    omega
  counter := kept.counter
  depth := kept.stack.size
  returns := kept.returns
  advanced := by
    have counter := kept.counter
    rintro count (rfl | rfl) <;>
    · simp only [Registers.advance]
      omega
  pushed := by
    have counter := kept.counter
    have entry := toNat_ofInt_of_lt (m.registers.pc + 2) (by omega) (by omega)
    intro stack success
    obtain ⟨_, rfl⟩ := CallStack.push_success _ _ _ success
    rw [List.map_cons, entry]
  offset := by
    intro w
    have := nnn_lt w
    have := m.registers.offset.toNat_lt
    omega
  read := fun length data => Memory.length_readStretch m.memory _ length data
  written := fun data after => Memory.writeBlock_fits m.memory after _ data
  screen := ⟨m.screen.cells.length_toList, fun lit _ => lit.toNat_le⟩
  timers := by
    have := m.timers.delay.toNat_lt
    have := m.timers.sound.toNat_lt
    omega
  keypad := by
    obtain ⟨k, input, few⟩ := kept.keypad
    exact ⟨k, input, few, fun key _ => by omega⟩
  parked := kept.parked

/-- A keypad that is asked for a press is still a keypad, with no more presses in its queue. -/
theorem poll_keypad (input : Input)
    (keypad : ∃ k, input = .keypad k ∧ k.events.length ≤ Keypad.capacity) :
    ∃ k, input.poll.2 = .keypad k ∧ k.events.length ≤ Keypad.capacity := by
  obtain ⟨k, rfl, few⟩ := keypad
  exact ⟨k.poll.2, rfl, k.perform_bounded .poll few⟩

/-- An instruction that is carried out keeps the invariant, whatever its flow of control. -/
theorem flow_kept (m after : Machine) (w : Opcode) (kept : m.Invariant) (fault : m.fault = none)
    (waiting : m.waiting = none) (fetched : m.fetched? = some w) (flow : Flow m w after) :
    after.Invariant := by
  have counter := fetched_within m w fetched
  have target := nnn_lt w
  have stack := flow_sized m after w kept.stack flow
  cases flow with
  | forward count counts pc same input waited faulted =>
    refine ⟨?_, stack, same ▸ kept.returns, input ▸ kept.keypad, ?_⟩
    · rw [pc]
      simp only [Registers.advance]
      omega
    · rw [waited, waiting]
      nofun
  | jumped address targets moved =>
    subst moved
    have offset := m.registers.offset.toNat_lt
    refine ⟨?_, stack, kept.returns, kept.keypad, ?_⟩
    · simp only [jump]
      omega
    · simp only [jump, waiting]
      nofun
  | called called pushed moved =>
    subst moved
    -- the return address is the end of the word that was fetched
    have entry := toNat_ofInt_of_lt (m.registers.pc + 2) (by omega) (by omega)
    obtain ⟨_, rfl⟩ := CallStack.push_success _ _ _ pushed
    refine ⟨?_, stack, ?_, kept.keypad, ?_⟩
    · simp only [jump]
      omega
    · intro a member
      rcases List.mem_cons.mp member with rfl | older
      · omega
      · exact kept.returns a older
    · simp only [jump, withStack, waiting]
      nofun
  | returned address left popped moved =>
    subst moved
    obtain ⟨entries, _⟩ := CallStack.pop_success _ _ _ popped
    have returns := kept.returns
    rw [entries] at returns
    have back := returns address List.mem_cons_self
    refine ⟨?_, stack, ?_, kept.keypad, ?_⟩
    · simp only [jump]
      omega
    · intro a member
      exact returns a (List.mem_cons_of_mem address member)
    · simp only [jump, withStack, waiting]
      nofun
  | parked op moved =>
    subst moved
    obtain ⟨k, input, few⟩ := kept.keypad
    refine ⟨kept.counter, stack, kept.returns, ⟨k.clearEvents, ?_, Nat.zero_le _⟩, ?_⟩
    · simp only [awaitKey, input, Input.clearEvents]
    · intro x named
      cases named
      exact ⟨fault, (atWait_iff m w.x).mpr ⟨w, fetched, op, rfl⟩⟩

section Marks
variable {m : Machine}

/-- A machine that starts afresh satisfies the invariant. -/
theorem Invariant.start (registers : m.registers = {}) (waiting : m.waiting = none)
    (keypad : ∃ k, m.input = .keypad k ∧ k.events.length ≤ Keypad.capacity) : m.Invariant := by
  refine ⟨?_, ?_, ?_, keypad, ?_⟩
  · rw [registers]
    decide
  · rw [registers]
    exact ⟨rfl, Nat.zero_le _⟩
  · rw [registers]
    nofun
  · rw [waiting]
    nofun

theorem Invariant.begun (kept : m.Invariant) (timers : Timers) : (m.begun timers).Invariant :=
  ⟨kept.counter, kept.stack, kept.returns, kept.keypad, kept.parked⟩

theorem Invariant.record (kept : m.Invariant) (line : TraceLine) : (m.record line).Invariant := by
  rw [record_eq]
  exact ⟨kept.counter, kept.stack, kept.returns, kept.keypad, kept.parked⟩

/-- A fault may be latched only where no key is waited for. -/
theorem Invariant.failed (kept : m.Invariant) (waiting : m.waiting = none) (pc : Int)
    (v : Violation) : (m.failed pc v).Invariant := by
  have recorded := kept.record (.failed v)
  refine ⟨recorded.counter, recorded.stack, recorded.returns,
    recorded.keypad, ?_⟩
  intro x named
  have free : (m.failed pc v).waiting = none := by
    rw [← waiting]
    exact record_waiting m (.failed v)
  rw [free] at named
  cases named

end Marks

/-- Each of the results of a step keeps the invariant. -/
theorem result_kept (m after : Machine) (timers : Timers) (o : Outcome) (kept : m.Invariant)
    (result : StepResult m timers after o) : after.Invariant := by
  have begun := kept.begun timers
  cases result with
  | stopped _ _ =>
    exact ⟨kept.counter, kept.stack, kept.returns, kept.keypad, kept.parked⟩
  | idle x _ _ _ =>
    exact ⟨kept.counter, kept.stack, kept.returns, poll_keypad m.input kept.keypad,
      kept.parked⟩
  | resumed x key fault waiting pressed =>
    -- the machine is parked at an instruction in memory, so its address is small
    have within := (kept.parked x waiting).2.within
    refine ⟨?_, kept.stack, kept.returns, poll_keypad m.input kept.keypad, nofun⟩
    simp only [resumed, next, setRegister, Registers.advance, Registers.set, begun_registers]
    omega
  | unfetched fault waiting missing => exact begun.failed waiting _ _
  | ended w _ _ _ _ => exact begun
  | refused w v fault waiting fetched proper obstacle =>
    exact (begun.record _).failed ((record_waiting _ _).trans waiting) _ _
  | carried w after fault waiting fetched proper free run flow =>
    refine flow_kept _ after w (begun.record _) ?_ ?_ ?_ flow
    · exact (record_fault _ _).trans fault
    · exact (record_waiting _ _).trans waiting
    · rw [record_eq]
      exact fetched

/-- Each action of a host that plays a program keeps the invariant. -/
theorem perform_kept (m : Machine) (a : HostAction) (plays : a.Plays) (kept : m.Invariant) :
    (m.perform a).Invariant := by
  cases a with
  | step elapsed =>
    rcases m.perform_step elapsed with same | ⟨timers, o, result⟩
    · rw [same]
      exact kept
    · exact result_kept m _ timers o kept result
  | keypad a =>
    obtain ⟨k, input, few⟩ := kept.keypad
    rw [perform_keypad m k a input]
    exact ⟨kept.counter, kept.stack, kept.returns,
      ⟨k.perform a, rfl, k.perform_bounded a few⟩, kept.parked⟩
  | reset =>
    obtain ⟨k, input, few⟩ := kept.keypad
    refine .start rfl rfl ⟨k.reset, ?_, Nat.zero_le _⟩
    simp only [perform, reset, input, Input.reset]
  | _ => exact plays.elim

theorem freshMemory_load (image : List UInt8) (fits : image.length ≤ 3584) :
    Memory.initial.load image = .ok (freshMemory image) := by
  have within : image.length ≤ Memory.programCapacity := fits
  have loaded : Memory.initial.load image =
      .ok ⟨Memory.store Memory.initial.cells Memory.programStart image⟩ := if_pos within
  simp only [freshMemory, loaded]

theorem load_fresh (input : Input) (random : RandomSource) (image : List UInt8)
    (fits : image.length ≤ 3584) :
    (fresh input random).load image = .ok { fresh input random with
      memory := freshMemory image, program := image } := by
  have memory : (fresh input random).memory = Memory.initial := rfl
  simp only [load, memory, freshMemory_load image fits]

theorem session_load (input : Input) (random : RandomSource) (image : List UInt8)
    (fits : image.length ≤ 3584) :
    (fresh input random).session [.load image] = { fresh input random with
      memory := freshMemory image, program := image } := by
  rw [session_cons, perform, load_fresh input random image fits]
  rfl

/-- An image that fits above `$200` is loaded, whatever was done to the keypad before, and from then
on every state is within bounds. -/
theorem played_bounded (layout : Layout) (before : List KeypadAction) (random : RandomSource)
    (image : List UInt8) (actions : List HostAction) (fits : image.length ≤ 3584)
    (plays : ∀ a ∈ actions, a.Plays) :
    ∃ m, (fresh (.keypad (Keypad.performAll { layout } before)) random).load image = .ok m ∧
      (m.session actions).Bounded := by
  refine ⟨_, load_fresh (.keypad (Keypad.performAll { layout } before)) random image fits,
    Invariant.bounded ?_⟩
  refine session_kept Invariant actions (fun m a member => perform_kept m a (plays a member)) _ ?_
  have few := Keypad.performAll_bounded { layout } before (Nat.zero_le _)
  exact .start rfl rfl ⟨_, rfl, few⟩

/-- A program that waits for a key, is given one, and is reset. -/
theorem played_bounded_reset :
    ∃ m, (fresh (.keypad (Keypad.performAll {} [.press 5])) (.repeating [])).load [0xF3, 0x0A] =
        .ok m ∧
      (m.session [.step .missing, .keypad (.press 6), .step .missing, .reset]).Bounded :=
  played_bounded .standard [.press 5] _ _ _ (by decide) (by simp [HostAction.Plays])

end Chip8.Machine
