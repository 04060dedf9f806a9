import Chip8.Proofs.Bare.Machine

/-!
# Every lookup succeeds

A well-formed machine has sixteen registers and full memory, all of bytes.  An effect is safe when
it leaves such a machine well formed and makes no slip, whether it ends or meets a violation.  The
parts of the machine are safe because the digits of a word name registers, and what is stored is
masked; safe effects in a row are safe; and so is every handler, every instruction and every step.
-/
namespace Chip8.Bare

/-- A number of bytes. -/
structure Bytes (n : Nat) (xs : List Int) : Prop where
  length : xs.length = n
  range : ∀ b ∈ xs, 0 ≤ b ∧ b < 256

/-- A machine whose parts have their sizes and ranges.  The program counter and the return addresses
may be any integers. -/
structure WellFormed {σ : Type} (m : Bare σ) : Prop where
  registers : Bytes 16 m.v
  memory : Bytes Memory.size m.memory
  pixels : Bytes (Screen.width * Screen.height) m.pixels
  index : 0 ≤ m.index ∧ m.index < 65536
  depth : m.depth ≤ 16
  stack : m.stack.length ≤ 16
  waiting : ∀ x, m.waiting = some x → 0 ≤ x ∧ x < 16
  fault : ∀ o, m.fault = some o → o.isFault

/-! ## Sequences -/

theorem position?_of_range (n : Nat) (i : Int) (lower : 0 ≤ i) (upper : i < n) :
    ∃ k : Fin n, Sequence.position? n i = some k ∧ (k.val : Int) = i := by
  obtain ⟨k, rfl⟩ := Int.eq_ofNat_of_zero_le lower
  have below : k < n := by omega
  exact ⟨⟨k, below⟩, by rw [Sequence.position?_natCast, dif_pos below], rfl⟩

theorem Bytes.item {n : Nat} {xs : List Int} (sized : Bytes n xs) (i : Int) (lower : 0 ≤ i)
    (upper : i < n) : ∃ b, item xs i = .ok b ∧ 0 ≤ b ∧ b < 256 := by
  obtain ⟨k, found, _⟩ := position?_of_range xs.length i lower (by rw [sized.length]; exact upper)
  refine ⟨xs[k], ?_, sized.range _ (List.getElem_mem _)⟩
  simp only [Bare.item, found]

theorem Bytes.set {n : Nat} {xs : List Int} (sized : Bytes n xs) (k : Nat) (value : Int)
    (byte : 0 ≤ value ∧ value < 256) : Bytes n (xs.set k value) := by
  refine ⟨by rw [List.length_set, sized.length], fun b member => ?_⟩
  rcases List.mem_or_eq_of_mem_set member with old | rfl
  · exact sized.range b old
  · exact byte

theorem Bytes.put {n : Nat} {xs : List Int} (sized : Bytes n xs) (i value : Int) (lower : 0 ≤ i)
    (upper : i < n) (byte : 0 ≤ value ∧ value < 256) :
    ∃ ys, put xs i value = .ok ys ∧ Bytes n ys := by
  obtain ⟨k, found, _⟩ := position?_of_range xs.length i lower (by rw [sized.length]; exact upper)
  refine ⟨xs.set k value, ?_, sized.set k value byte⟩
  simp only [Bare.put, if_pos byte, found]

theorem bytes_of_range (values : List Int) (range : ∀ b ∈ values, 0 ≤ b ∧ b < 256) :
    bytes values = .ok values := by
  have none : values.find? (fun b => ¬ (0 ≤ b ∧ b < 256)) = none := by
    rw [List.find?_eq_none]
    intro b member
    simp [range b member]
  simp only [bytes, none]

/-- The bytes between two borders that lie in a sequence. -/
theorem Bytes.between {n : Nat} {xs : List Int} (sized : Bytes n xs) (start length : Nat)
    (within : start + length ≤ n) :
    Bytes length (Sequence.between xs start (start + length : Nat)) := by
  have size := sized.length
  simp only [Sequence.between, size, Sequence.border_natCast n start (by omega),
    Sequence.border_natCast n (start + length) within]
  refine ⟨?_, fun b member => ?_⟩
  · rw [List.length_drop, List.length_take, size]
    omega
  · exact sized.range b (List.mem_of_mem_take (List.mem_of_mem_drop member))

/-- Bytes in the place of as many others. -/
theorem Bytes.splice {n length : Nat} {xs data : List Int} (sized : Bytes n xs) (start : Nat)
    (given : Bytes length data) (within : start + length ≤ n) :
    Bytes n (splice xs start (start + length : Nat) data) := by
  have size := sized.length
  have added := given.length
  simp only [Bare.splice, size, Sequence.border_natCast n start (by omega),
    Sequence.border_natCast n (start + length) within]
  refine ⟨?_, fun b member => ?_⟩
  · simp only [List.length_append, List.length_take, List.length_drop, size, added]
    omega
  · rcases List.mem_append.mp member with early | late
    · rcases List.mem_append.mp early with before | new
      · exact sized.range b (List.mem_of_mem_take before)
      · exact given.range b new
    · exact sized.range b (List.mem_of_mem_drop late)

/-! ## Safe effects -/

section Safe
variable {σ α β : Type}

/-- A result with a well-formed machine, and with a value that has a property if there is one. -/
inductive Sound (Q : α → Prop) : EStateM.Result Failure (Bare σ) α → Prop where
  | ok (a : α) (after : Bare σ) (wf : after.WellFormed) (holds : Q a) : Sound Q (.ok a after)
  | violation (v : Violation) (left : Bare σ) (wf : left.WellFormed) :
    Sound Q (.error (.violation v) left)

/-- An effect that keeps machines well formed and makes no slip. -/
def Safe (e : Effect σ α) (Q : α → Prop) : Prop := ∀ m, m.WellFormed → Sound Q (e.run m)

theorem Safe.bind {e : Effect σ α} {f : α → Effect σ β} {Q : α → Prop} {R : β → Prop}
    (first : Safe e Q) (rest : ∀ a, Q a → Safe (f a) R) : Safe (e >>= f) R := by
  intro m wf
  have begun := first m wf
  rw [EStateM.run_bind]
  cases done : e.run m with
  | ok a after =>
    rw [done] at begun
    cases begun with
    | ok _ _ kept holds => exact rest a holds after kept
  | error failure left =>
    rw [done] at begun
    cases begun with
    | violation v _ kept => exact .violation v left kept

theorem safe_pure (a : α) {Q : α → Prop} (holds : Q a) : Safe (pure a : Effect σ α) Q :=
  fun m wf => .ok a m wf holds

/-- A safe effect after which a result is told. -/
theorem Safe.tell {e : Effect σ α} {Q : α → Prop} (safe : Safe e Q) (f : α → β) :
    Safe (e >>= fun a => pure (f a)) fun _ => True :=
  safe.bind fun _ _ => safe_pure _ trivial

theorem safe_get : Safe (get : Effect σ (Bare σ)) WellFormed := fun m wf => .ok m m wf wf

theorem safe_set (m : Bare σ) (wf : m.WellFormed) : Safe (set m : Effect σ PUnit) fun _ => True :=
  fun _ _ => .ok () m wf trivial

theorem safe_modify (f : Bare σ → Bare σ) (kept : ∀ m, m.WellFormed → (f m).WellFormed) :
    Safe (modify f : Effect σ PUnit) fun _ => True :=
  fun m wf => .ok () (f m) (kept m wf) trivial

theorem safe_violation (v : Violation) {Q : α → Prop} :
    Safe (throw (.violation v) : Effect σ α) Q :=
  fun m wf => .violation v m wf

theorem safe_orSlip {r : Except Slip α} {Q : α → Prop} (found : ∃ a, r = .ok a ∧ Q a) :
    Safe (orSlip r : Effect σ α) Q := by
  obtain ⟨a, rfl, holds⟩ := found
  exact safe_pure a holds

end Safe

/-! ## Parts of the machine -/

section Parts
variable {σ : Type}

/-- Whether a value is a byte. -/
def IsByte (b : Int) : Prop := 0 ≤ b ∧ b < 256

theorem isByte_low (value : Int) : IsByte (value % 256) := by
  unfold IsByte
  omega

theorem safe_getV (i : Int) (lower : 0 ≤ i) (upper : i < 16) :
    Safe (getV i : Effect σ Int) IsByte :=
  safe_get.bind fun _ wf => safe_orSlip (wf.registers.item i lower upper)

theorem safe_putV (i value : Int) (lower : 0 ≤ i) (upper : i < 16) (byte : IsByte value) :
    Safe (putV i value : Effect σ Unit) fun _ => True :=
  safe_get.bind fun m wf =>
    (safe_orSlip (wf.registers.put i value lower upper byte)).bind fun v sized =>
      safe_set { m with v } { wf with registers := sized }

theorem safe_setV (i value : Int) (lower : 0 ≤ i) (upper : i < 16) :
    Safe (setV i value : Effect σ Unit) fun _ => True :=
  safe_putV i _ lower upper (isByte_low value)

theorem safe_setFlag (value : Int) (byte : IsByte value) :
    Safe (setFlag value : Effect σ Unit) fun _ => True :=
  safe_putV _ value (by decide) (by decide) byte

theorem safe_setIndex (value : Int) : Safe (setIndex value : Effect σ Unit) fun _ => True :=
  safe_modify _ fun m wf => { wf with index := by simp only; omega }

theorem safe_jump (address : Int) : Safe (jump address : Effect σ Unit) fun _ => True :=
  safe_modify _ fun _ wf => { wf with }

theorem safe_advance : Safe (advance : Effect σ Unit) fun _ => True :=
  safe_modify _ fun _ wf => { wf with }

theorem safe_push (address : Int) : Safe (push address : Effect σ Unit) fun _ => True := by
  refine safe_get.bind fun m wf => ?_
  split
  · exact safe_violation _
  · next room =>
    refine safe_set _ { wf with stack := ?_ }
    have depth := wf.depth
    rw [List.length_cons]
    omega

theorem safe_pop : Safe (pop : Effect σ Int) fun _ => True := by
  refine safe_get.bind fun m wf => ?_
  split
  · exact safe_violation _
  · next address stack entries =>
    have size := wf.stack
    rw [entries, List.length_cons] at size
    exact (safe_set { m with stack } { wf with stack := by simp only; omega }).tell _

theorem safe_check (address length : Int) :
    Safe (check address length : Effect σ Unit) fun _ =>
      0 ≤ address ∧ address + length ≤ (Memory.size : Int) := by
  unfold check
  split
  · exact safe_violation _
  · exact safe_pure () (by omega)

theorem safe_readWord (address : Int) :
    Safe (readWord address : Effect σ Int) fun word => 0 ≤ word ∧ word < 65536 := by
  refine (safe_check address 2).bind fun _ inside => safe_get.bind fun m wf => ?_
  refine (safe_orSlip (wf.memory.item address (by omega) (by omega))).bind fun high first => ?_
  have next := wf.memory.item (address + 1) (by omega) (by omega)
  refine (safe_orSlip next).bind fun low second => ?_
  exact safe_pure _ (by omega)

theorem safe_readBlock (address : Int) (length : Nat) :
    Safe (readBlock address length : Effect σ (List Int)) (Bytes length) := by
  refine (safe_check address length).bind fun _ inside => safe_get.bind fun m wf => ?_
  obtain ⟨start, rfl⟩ := Int.eq_ofNat_of_zero_le inside.1
  have data := wf.memory.between start length (by omega)
  refine safe_orSlip ⟨_, ?_, data⟩
  exact bytes_of_range _ data.range

theorem safe_writeBlock (address : Int) (length : Nat) (data : List Int)
    (given : Bytes length data) :
    Safe (writeBlock address data : Effect σ Unit) fun _ => True := by
  refine (safe_orSlip ⟨data, bytes_of_range data given.range, given⟩).bind fun kept sized => ?_
  refine (safe_check address kept.length).bind fun _ inside => ?_
  obtain ⟨start, rfl⟩ := Int.eq_ofNat_of_zero_le inside.1
  have size := sized.length
  refine safe_modify _ fun m wf => { wf with memory := ?_ }
  exact wf.memory.splice start ⟨rfl, sized.range⟩ (by omega)

theorem safe_flipPixel (hit : Bool) (x y : Int) :
    Safe (flipPixel hit x y : Effect σ Bool) fun _ => True := by
  refine safe_get.bind fun m wf => ?_
  have lower : 0 ≤ y % 32 * 64 + x % 64 := by omega
  have upper : y % 32 * 64 + x % 64 < (Screen.width * Screen.height : Nat) := by
    simp only [Screen.width, Screen.height]
    omega
  refine (safe_orSlip (wf.pixels.item _ lower upper)).bind fun p byte => ?_
  have flipped : 0 ≤ (if p % 2 = 0 then p + 1 else p - 1) ∧
      (if p % 2 = 0 then p + 1 else p - 1) < 256 := by
    split <;> omega
  refine (safe_orSlip (wf.pixels.put _ _ lower upper flipped)).bind fun pixels sized => ?_
  exact (safe_set { m with pixels } { wf with pixels := sized }).tell _

theorem safe_flipPixels (hit : Bool) (points : List (Int × Int)) :
    Safe (flipPixels hit points : Effect σ Bool) fun _ => True := by
  induction points generalizing hit with
  | nil => exact safe_pure hit trivial
  | cons p rest ih => exact (safe_flipPixel hit p.1 p.2).bind fun hit _ => ih hit

theorem WellFormed.recorded {m : Bare σ} (wf : m.WellFormed) (line : TraceLine) :
    (m.recorded line).WellFormed := by
  unfold Bare.recorded
  split
  · exact { wf with }
  · exact wf

theorem safe_record (line : TraceLine) : Safe (record line : Effect σ Unit) fun _ => True :=
  safe_modify _ fun _ wf => wf.recorded line

end Parts

end Chip8.Bare
