import Chip8.Proofs.Machine.Footprint
import Chip8.Proofs.Machine.Session
import Chip8.Proofs.Registers
import Chip8.Proofs.Screen.Sprites
import Chip8.Proofs.Timers

/-!
# Drawing

The step that draws reads its rows from the index register on and its point from two registers, and
sets the flag register last, which may be one of the two.
-/
namespace Chip8.Machine

section Step
variable {m after : Machine} {timers : Timers} {o : Outcome} {w : Opcode}

/-- A sprite whose rows lie within memory is drawn with the rows that have been read. -/
theorem result_drawn (due : m.due? = some w) (op : w.operation = .draw)
    (fits : m.registers.index.toNat + w.n.val ≤ Memory.size)
    (result : StepResult m timers after o) :
    o = .running ∧ ∃ rows, m.memory.readStretch m.registers.index.toNat w.n.val = .ok rows ∧
      after = (((m.begun timers).record (.executed m.registers.pc w)).withSprite w.x w.y rows).next
        := by
  obtain ⟨running, run⟩ := result_block due (by rw [blockLength?, op]) fits result
  obtain ⟨rows, read, drawn⟩ := execute_drawn op run
  rw [record_eq] at read
  exact ⟨running, rows, read, drawn⟩

end Step

/-- Whether some point of the screen is lit before and not after. -/
def PutsOut (before after : Screen) : Prop :=
  ∃ px < 64, ∃ py < 32, before.lit (px : Nat) (py : Nat) = true ∧ after.lit px py = false

/-- A point of the screen may be named by any integers. -/
theorem putsOut_iff (before after : Screen) :
    PutsOut before after ↔ ∃ px py, before.lit px py = true ∧ after.lit px py = false := by
  constructor
  · rintro ⟨px, _, py, _, lit, out⟩
    exact ⟨px, py, lit, out⟩
  · rintro ⟨px, py, lit, out⟩
    have same : Screen.cell px py = Screen.cell (px % 64).toNat (py % 32).toNat := by
      rw [Screen.cell_eq_iff]
      omega
    refine ⟨(px % 64).toNat, by omega, (py % 32).toNat, by omega, ?_, ?_⟩
    · rwa [← before.lit_congr same]
    · rwa [← after.lit_congr same]

/-- The bytes of a sprite as rows, each at its address. -/
theorem spriteRow_byte {m : Machine} {length : Nat} {rows : List UInt8}
    (read : m.memory.readStretch m.registers.index.toNat length = .ok rows) (r : Nat)
    (within : r < length) :
    ∃ b, m.memory.byte? (m.registers.index.toNat + r : Nat) = some b ∧
      (rows.map fun b => (b.toNat : Int))[r]? = some (b.toNat : Int) := by
  have found := Memory.getElem?_readStretch m.memory _ length rows read r within
  have inside : r < rows.length := by rwa [Memory.length_readStretch _ _ _ _ read]
  rw [List.getElem?_eq_getElem inside] at found
  exact ⟨rows[r], found.symm, by simp [inside]⟩

/-- Every bit of a sprite that memory holds flips its point, where the coordinates wrap around, and
no other point changes. -/
theorem drawn_points {m : Machine} {length : Nat} {rows : List UInt8}
    (read : m.memory.readStretch m.registers.index.toNat length = .ok rows) (few : length ≤ 32)
    (s : Screen) (vx vy : Nat) :
    let after := (s.draw vx vy (rows.map fun b => (b.toNat : Int))).1
    (∀ r < length, ∀ c < 8, ∃ b,
      m.memory.byte? (m.registers.index.toNat + r : Nat) = some b ∧
      after.lit ((vx + c) % 64 : Nat) ((vy + r) % 32 : Nat) =
        (s.lit ((vx + c) % 64 : Nat) ((vy + r) % 32 : Nat) ^^ b.toNat.testBit (7 - c))) ∧
    (∀ px < 64, ∀ py < 32,
      (∀ r < length, ∀ c < 8, ¬ (px = (vx + c) % 64 ∧ py = (vy + r) % 32)) →
      after.lit (px : Nat) (py : Nat) = s.lit px py) := by
  have height : (rows.map fun b => (b.toNat : Int)).length = length := by
    rw [List.length_map, Memory.length_readStretch _ _ _ _ read]
  rw [← height] at few
  constructor
  · intro r below c small
    obtain ⟨b, byte, row⟩ := spriteRow_byte read r below
    refine ⟨b, byte, ?_⟩
    have same : Screen.cell ((vx + c) % 64 : Nat) ((vy + r) % 32 : Nat) =
        Screen.cell (vx + c) (vy + r) := by
      rw [Screen.cell_eq_iff]
      omega
    rw [Screen.lit_congr _ same, Screen.lit_congr _ same, ← Screen.rowBit_byte]
    exact s.draw_bit vx vy _ few row small
  · intro px right py down other
    apply s.draw_other vx vy _ few
    intro r below c small same
    rw [height] at below
    rw [Screen.cell_eq_iff] at same
    exact other r below c small (by omega)

/-- A drawing step whose rows lie within memory comes to an end.  Every bit of the sprite flips its
point if it is set, where the coordinates wrap around, and no other point changes; the flag register
tells whether a point was put out; and nothing else changes but the time and the program counter. -/
theorem draw_step (m : Machine) (w : Opcode) (elapsed : Reading) (timers : Timers) (ticks : Nat)
    (due : m.due? = some w) (op : w.family = 0xD)
    (fits : m.registers.index.toNat + w.n.val ≤ 4096)
    (accepted : m.timers.update elapsed = .ok (timers, ticks)) :
    let vx := (m.registers.get w.x).toNat
    let vy := (m.registers.get w.y).toNat
    ∃ t, m.step elapsed = .ok t ∧ t.outcome = .running ∧
      (∀ r < w.n.val, ∀ c < 8, ∃ b,
        m.memory.byte? (m.registers.index.toNat + r : Nat) = some b ∧
        t.machine.screen.lit ((vx + c) % 64 : Nat) ((vy + r) % 32 : Nat) =
          (m.screen.lit ((vx + c) % 64 : Nat) ((vy + r) % 32 : Nat) ^^ b.toNat.testBit (7 - c))) ∧
      (∀ px < 64, ∀ py < 32,
        (∀ r < w.n.val, ∀ c < 8, ¬ (px = (vx + c) % 64 ∧ py = (vy + r) % 32)) →
        t.machine.screen.lit (px : Nat) (py : Nat) = m.screen.lit px py) ∧
      (PutsOut m.screen t.machine.screen ∧ t.machine.registers.get 15 = 1 ∨
        ¬ PutsOut m.screen t.machine.screen ∧ t.machine.registers.get 15 = 0) ∧
      (∀ i, i ≠ 15 → t.machine.registers.get i = m.registers.get i) ∧
      t.machine.registers.index = m.registers.index ∧
      t.machine.memory = m.memory ∧
      t.machine.registers.stack = m.registers.stack ∧
      t.machine.timers = timers ∧
      t.machine.registers.pc = m.registers.pc + 2 := by
  intro vx vy
  have draws := w.operation_of_fits .draw op
  obtain ⟨t, stepped, result⟩ := m.step_success elapsed timers ticks accepted
  obtain ⟨running, rows, read, left⟩ := result_drawn due draws fits result
  rw [record_eq] at left
  -- the screen and the flag are those of a sprite of at most fifteen rows
  let data := rows.map fun b => (b.toNat : Int)
  have few : data.length ≤ 32 := by
    rw [List.length_map, Memory.length_readStretch _ _ _ _ read]
    omega
  have screen : t.machine.screen = (m.screen.draw vx vy data).1 := by
    rw [left]
    rfl
  have registers : ∀ i, t.machine.registers.get i =
      if i = 15 then Arithmetic.flagByte (m.screen.draw vx vy data).2 else m.registers.get i := by
    intro i
    rw [left]
    exact Registers.get_set _ _ i _
  have hit := Screen.draw_hit_iff m.screen vx vy data few
  rw [← screen, ← putsOut_iff] at hit
  have counter := fetched_within m w ((due_iff m w).mp due).2.2
  obtain ⟨bits, others⟩ := drawn_points read (by omega) m.screen vx vy
  rw [← screen] at bits others
  refine ⟨t, stepped, running, bits, others, ?_, ?_, ?_, ?_, ?_, ?_, ?_⟩
  · rw [registers, if_pos rfl]
    cases collided : (m.screen.draw vx vy data).2 with
    | true => exact .inl ⟨hit.mp collided, rfl⟩
    | false =>
      refine .inr ⟨fun out => ?_, rfl⟩
      rw [hit.mpr out] at collided
      cases collided
  · intro i other
    rw [registers, if_neg other]
  · rw [left]
    rfl
  · rw [left]
    rfl
  · rw [left]
    rfl
  · rw [left]
    rfl
  · rw [left]
    simp only [next, withSprite, setRegister, Registers.advance, Registers.set, begun]
    omega

/-- A machine that is about to draw two rows of the glyph of `0`, where register `F` says. -/
def atOwnFlag : Machine :=
  (fresh (.keypad {}) (.repeating [])).session [.load [0xDF, 0xF2], .setRegister 15 62]

/-- The glyph wraps around the right border, and the flag takes the place of the coordinates. -/
theorem draw_step_own_flag :
    ∃ t, atOwnFlag.step Timers.noTime = .ok t ∧ t.outcome = .running ∧
      t.machine.screen.lit 0 30 = true ∧ t.machine.screen.lit 0 31 = false ∧
      t.machine.registers.get 15 = 0 ∧ t.machine.registers.pc = 0x202 := by
  have fetched : atOwnFlag.fetched? = some (.ofBytes 0xDF 0xF2) :=
    fetched_load _ Memory.initial 0xDF 0xF2 [] rfl rfl
  have blank : ∀ px py, atOwnFlag.screen.lit px py = false :=
    fun _ _ => Vector.getElem_replicate _
  obtain ⟨t, stepped, running, bits, _, flag, _, _, _, _, _, counter⟩ :=
    draw_step atOwnFlag (.ofBytes 0xDF 0xF2) Timers.noTime {} 0
      ((due_iff _ _).mpr ⟨rfl, rfl, fetched⟩) rfl (by decide) (Timers.update_noTime {} rfl)
  refine ⟨t, stepped, running, ?_, ?_, ?_, counter⟩
  · obtain ⟨b, byte, lit⟩ := bits 0 (by decide) 2 (by decide)
    have row : atOwnFlag.memory.byte? (0 : Nat) = some 0xF0 := by decide +kernel
    cases byte.symm.trans row
    rw [blank] at lit
    exact lit
  · obtain ⟨b, byte, lit⟩ := bits 1 (by decide) 2 (by decide)
    have row : atOwnFlag.memory.byte? (1 : Nat) = some 0x90 := by decide +kernel
    cases byte.symm.trans row
    rw [blank] at lit
    exact lit
  · obtain ⟨⟨px, _, py, _, lit, _⟩, _⟩ | ⟨_, cleared⟩ := flag
    · rw [blank] at lit
      cases lit
    · exact cleared

end Chip8.Machine
