import Chip8.Proofs.Memory.Actions

/-!
# Memory on bare integers

Memory once more, as a list of integers whose length nothing fixes.  A cell is looked up by its
number, a number is checked to be a byte when it is stored, and a stretch of cells is replaced by
numbers of which there may be more or fewer.  What an effect has done to the store stays done when
it is broken off.  The bytes of the typed memory are such a store, and every effect on it does what
the action does to the memory.
-/
namespace Chip8.Bare.Store

/-- What breaks an effect off: a refusal, or a slip that nothing foresees. -/
inductive Failure where
  | refusal (r : Memory.Refusal)
  | slip (s : Slip)
  deriving DecidableEq, Repr

/-- What is done to a store, with a result. -/
abbrev Effect := EStateM Failure (List Int)

/-- The result of a lookup or of a conversion; a number that is no byte is refused. -/
def attempt {α : Type} : Except Slip α → Effect α
  | .ok a => pure a
  | .error (.byte value) => throw (.refusal (.byte value))
  | .error s => throw (.slip s)

/-- Refuses a stretch of addresses that does not lie within memory. -/
def check (address length : Int) : Effect Unit :=
  if address < 0 ∨ (Memory.size : Int) < address + length then
    throw (.refusal (.bounds ⟨address, length⟩))
  else pure ()

def read (address : Int) : Effect Int := do
  check address 1
  let xs ← get
  attempt (item xs address)

def readPair (address : Int) : Effect Int := do
  check address 2
  let xs ← get
  let high ← attempt (item xs address)
  let low ← attempt (item xs (address + 1))
  return high * 256 + low

def write (address value : Int) : Effect Unit := do
  check address 1
  let xs ← get
  let after ← attempt (put xs address (value % 256))
  set after

def writeBlock (address : Int) (data : List Int) : Effect Unit := do
  let data ← attempt (bytes data)
  check address data.length
  modify fun xs => splice xs address (address + data.length) data

def load (image : List Int) : Effect Unit := do
  let image ← attempt (bytes image)
  if Memory.programCapacity < image.length then throw (.refusal (.image ⟨image.length⟩))
  else
    modify fun xs =>
      splice xs Memory.programStart (Memory.programStart + image.length : Nat) image

def loadFont : Effect Unit :=
  modify fun xs =>
    splice xs Memory.fontStart (Memory.fontStart + Memory.font.length : Nat)
      (integers Memory.font)

def clear : Effect Unit := do
  modify fun xs => splice xs 0 xs.length (List.replicate Memory.size 0)
  loadFont

/-- The effect of an action. -/
def effect : Memory.Action → Effect Unit
  | .write address value => write address value
  | .writeBlock address data => writeBlock address data
  | .load image => load image
  | .loadFont => loadFont
  | .clear => clear

/-- The store that an effect leaves, also when it is broken off. -/
def left {α : Type} : EStateM.Result Failure (List Int) α → List Int
  | .ok _ xs | .error _ xs => xs

/-- The store when it is new. -/
def fresh : List Int := left (loadFont.run (List.replicate Memory.size 0))

/-- The store after several actions. -/
def runAll (xs : List Int) (actions : List Memory.Action) : List Int :=
  actions.foldl (fun xs a => left ((effect a).run xs)) xs

/-! ## The bytes of a memory as a store -/

section Effects
variable (m : Memory)

/-- The numbers of the bytes of a memory. -/
def image (m : Memory) : List Int := integers m.cells.toList

/-- The image of a result, and the store as it was when there is none. -/
def answer : Except Memory.Refusal Memory → EStateM.Result Failure (List Int) Unit
  | .ok after => .ok () (image after)
  | .error r => .error (.refusal r) (image m)

theorem length_image : (image m).length = Memory.size := by
  rw [image, integers, List.length_map, Vector.length_toList]

theorem check_run (address length : Int) (xs : List Int) :
    (check address length).run xs =
      if Memory.inBounds address length then .ok () xs
      else .error (.refusal (.bounds ⟨address, length⟩)) xs := by
  have bounds := Memory.inBounds_iff_not_beyond address length
  unfold check
  split
  · next outside =>
    rw [if_neg (fun inside => bounds.mp inside outside)]
    rfl
  · next inside =>
    rw [if_pos (bounds.mpr inside)]
    rfl

theorem item_image (k : Nat) (inside : k < Memory.size) :
    item (image m) k = .ok (m.cells[k].toNat : Int) := by
  have size : m.cells.toList.length = Memory.size := Vector.length_toList
  rw [← size] at inside
  exact item_map _ _ k inside

theorem read_run (address : Int) :
    (read address).run (image m) =
      match m.read address with
      | .ok b => .ok (b.toNat : Int) (image m)
      | .error e => .error (.refusal (.bounds e)) (image m) := by
  simp only [read, EStateM.run_bind, check_run, Memory.read]
  by_cases inside : 0 ≤ address ∧ address + 1 ≤ (Memory.size : Int)
  · have bounds : Memory.inBounds address 1 = true := (Memory.within_iff _ _).mpr inside
    obtain ⟨k, rfl⟩ := Int.eq_ofNat_of_zero_le inside.1
    have found := item_image m k (by omega)
    rw [if_pos bounds, dif_pos inside]
    simp only [EStateM.run_get, found, attempt, EStateM.run_pure]
    rfl
  · have bounds : ¬ Memory.inBounds address 1 = true := mt (Memory.within_iff _ _).mp inside
    rw [if_neg bounds, dif_neg inside]

theorem readPair_run (address : Int) :
    (readPair address).run (image m) =
      match m.readPair address with
      | .ok pair => .ok (Memory.wordOf pair : Int) (image m)
      | .error e => .error (.refusal (.bounds e)) (image m) := by
  simp only [readPair, EStateM.run_bind, check_run, Memory.readPair]
  by_cases inside : 0 ≤ address ∧ address + 2 ≤ (Memory.size : Int)
  · have bounds : Memory.inBounds address 2 = true := (Memory.within_iff _ _).mpr inside
    obtain ⟨k, rfl⟩ := Int.eq_ofNat_of_zero_le inside.1
    have high := item_image m k (by omega)
    have low := item_image m (k + 1) (by omega)
    rw [Int.natCast_succ] at low
    rw [if_pos bounds, dif_pos inside]
    simp only [EStateM.run_get, high, low, attempt, EStateM.run_pure, Memory.wordOf]
    rfl
  · have bounds : ¬ Memory.inBounds address 2 = true := mt (Memory.within_iff _ _).mp inside
    rw [if_neg bounds, dif_neg inside]

/-- A stretch of cells within the store that is replaced by as many bytes. -/
theorem splice_image (start : Nat) (data : List UInt8)
    (inside : start + data.length ≤ Memory.size) :
    splice (image m) start (start + data.length : Nat) (integers data) =
      image ⟨Memory.store m.cells start data⟩ := by
  have size : m.cells.toList.length = Memory.size := Vector.length_toList
  simp only [image, toList_store _ _ _ inside]
  exact splice_integers _ data start (by rw [size]; exact inside)

theorem attempt_bytes (data : List Int) (xs : List Int) :
    (attempt (bytes data)).run xs =
      match Memory.toBytes data with
      | .ok stored => .ok (integers stored) xs
      | .error r => .error (.refusal r) xs := by
  have same : data.find? (fun b => ¬ (0 ≤ b ∧ b < 256)) = Memory.strange? data := rfl
  simp only [bytes, Memory.toBytes, same]
  cases strange : Memory.strange? data with
  | some value => rfl
  | none =>
    simp only [Memory.integers_toBytes data strange]
    rfl

theorem write_run (address value : Int) :
    (write address value).run (image m) = answer m (m.perform (.write address value)) := by
  simp only [write, EStateM.run_bind, check_run, Memory.perform, Memory.write]
  by_cases bounds : Memory.inBounds address 1 = true
  · have within := (Memory.within_iff _ _).mp bounds
    obtain ⟨k, rfl⟩ := Int.eq_ofNat_of_zero_le within.1
    have inside : k < m.cells.toList.length := by
      rw [Vector.length_toList, Memory.size]
      omega
    have stored : put (image m) k (value % 256) =
        .ok (image ⟨m.cells.setIfInBounds k (.ofInt value)⟩) := by
      simp only [image, integers, Vector.toList_setIfInBounds, ← toNat_ofInt8 value]
      exact put_map _ _ _ _ inside (byte_range _)
    rw [if_pos bounds, if_pos bounds]
    simp only [EStateM.run_get, stored, attempt, EStateM.run_pure, EStateM.run_set]
    rfl
  · rw [if_neg bounds, if_neg bounds]
    rfl

theorem writeBlock_run (address : Int) (data : List Int) :
    (writeBlock address data).run (image m) =
      answer m (m.perform (.writeBlock address data)) := by
  simp only [writeBlock, EStateM.run_bind, attempt_bytes, Memory.perform]
  cases Memory.toBytes data with
  | error r => rfl
  | ok stored =>
    have length : (integers stored).length = stored.length := List.length_map _
    simp only [check_run, length, bind, Except.bind, Memory.writeBlock]
    by_cases bounds : Memory.inBounds address stored.length = true
    · have within := (Memory.within_iff _ _).mp bounds
      obtain ⟨start, rfl⟩ := Int.eq_ofNat_of_zero_le within.1
      have spliced := splice_image m start stored (by rw [Memory.size]; omega)
      rw [if_pos bounds, if_pos bounds]
      rw [Int.natCast_add] at spliced
      simp only [EStateM.run_modify, spliced]
      rfl
    · rw [if_neg bounds, if_neg bounds]
      rfl

theorem load_run (data : List Int) :
    (load data).run (image m) = answer m (m.perform (.load data)) := by
  simp only [load, EStateM.run_bind, attempt_bytes, Memory.perform]
  cases Memory.toBytes data with
  | error r => rfl
  | ok stored =>
    have length : (integers stored).length = stored.length := List.length_map _
    simp only [length, bind, Except.bind, Memory.load]
    by_cases small : stored.length ≤ Memory.programCapacity
    · have spliced := splice_image m Memory.programStart stored (by
        simp only [Memory.programCapacity, Memory.programStart, Memory.size] at small ⊢
        omega)
      rw [if_neg (Nat.not_lt.mpr small), if_pos small]
      simp only [EStateM.run_modify, spliced]
      rfl
    · rw [if_pos (Nat.lt_of_not_le small), if_neg small]
      rfl

theorem loadFont_run : loadFont.run (image m) = .ok () (image m.withFont) := by
  have spliced := splice_image m Memory.fontStart Memory.font (by decide)
  simp only [loadFont, EStateM.run_modify, spliced]
  rfl

theorem image_blank : image ⟨Vector.replicate Memory.size 0⟩ = List.replicate Memory.size 0 := by
  simp [image, integers]

theorem clear_run : clear.run (image m) = .ok () (image .initial) := by
  simp only [clear, EStateM.run_bind, EStateM.run_modify, splice_all, ← image_blank, loadFont_run]
  rfl

/-- Every effect does to the bytes of a memory what the action does to the memory. -/
theorem effect_run (a : Memory.Action) :
    (effect a).run (image m) = answer m (m.perform a) := by
  cases a with
  | write address value => exact write_run m address value
  | writeBlock address data => exact writeBlock_run m address data
  | load data => exact load_run m data
  | loadFont => exact loadFont_run m
  | clear => exact clear_run m

end Effects

/-! ## Several actions -/

theorem fresh_eq : fresh = image .initial := by
  simp only [fresh, ← image_blank, loadFont_run, left, Memory.initial]

theorem runAll_image (m : Memory) (actions : List Memory.Action) :
    runAll (image m) actions = image (m.performAll actions) := by
  induction actions generalizing m with
  | nil => rfl
  | cons a rest ih =>
    have first : left ((effect a).run (image m)) = image (m.performed a) := by
      rw [effect_run, Memory.performed]
      cases m.perform a <;> rfl
    exact (congrArg (runAll · rest) first).trans (ih (m.performed a))

/-- Memory is a store that keeps what was written last.  Whatever was done to it, some of it in
vain, the store of bare integers has the bytes of the typed memory and never another length; a byte
is the one that was stored last by an action that was not refused; every action is refused for the
reason that it has, which leaves the store as it is, or is carried out; a program that fits is
loaded and changes its own bytes alone; and a word is there exactly if its two bytes are. -/
theorem last_writer (actions : List Memory.Action) :
    let m := Memory.initial.performAll actions
    let xs := runAll fresh actions
    xs = image m ∧ xs.length = 4096 ∧
    (∀ i < 4096, ∃ b, m.read (i : Nat) = .ok b ∧ (read i).run xs = .ok b.toNat xs ∧
      (b.toNat : Int) =
        (Memory.lastStored? actions i).getD ((integers Memory.font)[i]?.getD 0)) ∧
    (∀ a : Memory.Action,
      (∃ r, a.refusal? = some r ∧ m.perform a = .error r ∧
        (effect a).run xs = .error (.refusal r) xs) ∨
      (a.refusal? = none ∧ ∃ after, m.perform a = .ok after ∧
        (effect a).run xs = .ok () (image after))) ∧
    (∀ program : List UInt8, program.length ≤ 3584 →
      ∃ after, m.perform (.load (integers program)) = .ok after ∧
        ∀ address : Int, address < 0x200 ∨ 0x200 + program.length ≤ address →
          after.read address = m.read address) ∧
    ∀ address,
      ((readPair address).run xs = match m.readPair address with
        | .ok pair => .ok (Memory.wordOf pair : Int) xs
        | .error e => .error (.refusal (.bounds e)) xs) ∧
      (m.readPair address).toOption.map Memory.wordOf =
        (m.read address).toOption.bind fun high =>
          (m.read (address + 1)).toOption.map fun low => 256 * high.toNat + low.toNat := by
  intro m xs
  have same : xs = image m := by
    rw [← runAll_image, ← fresh_eq]
  rw [same]
  refine ⟨rfl, length_image m, fun i inside => ?_, fun a => ?_, fun program small => ?_,
    fun address => ⟨readPair_run m address, ?_⟩⟩
  · have found := m.read_cell i inside
    refine ⟨m.cells[i], found, ?_, ?_⟩
    · rw [read_run, found]
    · rw [← Memory.cell_initial i inside]
      exact Memory.cell_performAll .initial actions i inside
  · obtain ⟨r, refused, error⟩ | ⟨accepted, after, carried, _⟩ := m.answers a
    · refine .inl ⟨r, refused, error, ?_⟩
      rw [effect_run, error]
      rfl
    · refine .inr ⟨accepted, after, carried, ?_⟩
      rw [effect_run, carried]
      rfl
  · exact m.perform_load program small
  · exact m.toOption_readPair address

end Chip8.Bare.Store
