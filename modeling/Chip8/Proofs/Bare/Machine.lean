import Chip8.Machine.Step

/-!
# The machine on bare integers

The machine once more, on lists of integers, where nothing is in range by its type.  A register, a
cell of memory or a pixel is looked up by its number, a number is checked to be a byte when it is
stored, and an operation and its handler are looked up in tables.  What goes wrong is a violation,
which a step turns into a fault, or a slip, which nothing catches.
-/
namespace Chip8

/-- A lookup that finds nothing, or a number that is to be stored and is no byte. -/
inductive Slip where
  | item (i : Int)
  | byte (value : Int)
  | family (n : Int)
  | handler (o : Operation)
  | description (o : Operation)
  deriving DecidableEq, Repr

/-- A source of input of any kind: every question is answered and may change the source. -/
structure Source (σ : Type) where
  isDown : σ → Int → Bool × σ
  poll : σ → Option Int × σ
  clearEvents : σ → σ

/-- A machine on bare integers, with the latest return address first. -/
structure Bare (σ : Type) where
  v : List Int
  index : Int
  pc : Int
  depth : Int
  stack : List Int
  memory : List Int
  pixels : List Int
  timers : Timers
  input : σ
  random : RandomSource
  waiting : Option Int
  steps : Nat
  fault : Option Outcome
  tracing : Bool
  trace : Array TraceLine

namespace Bare

/-- What breaks an effect off. -/
inductive Failure where
  | violation (v : Violation)
  | slip (s : Slip)
  deriving DecidableEq, Repr

/-- What a step does not turn into an outcome. -/
inductive Uncaught where
  | timer (e : TimerError)
  | failure (f : Failure)
  deriving DecidableEq, Repr

/-- What is done to a machine on bare integers, with a result. -/
abbrev Effect (σ : Type) := EStateM Failure (Bare σ)

/-! ## Sequences -/

/-- Looks an item up by its position. -/
def item (xs : List Int) (i : Int) : Except Slip Int :=
  match Sequence.position? xs.length i with
  | some k => .ok xs[k]
  | none => .error (.item i)

/-- Stores a byte at a position. -/
def put (xs : List Int) (i value : Int) : Except Slip (List Int) :=
  if 0 ≤ value ∧ value < 256 then
    match Sequence.position? xs.length i with
    | some k => .ok (xs.set k value)
    | none => .error (.item i)
  else .error (.byte value)

/-- Numbers as bytes, if they are. -/
def bytes (values : List Int) : Except Slip (List Int) :=
  match values.find? fun b => ¬ (0 ≤ b ∧ b < 256) with
  | some b => .error (.byte b)
  | none => .ok values

/-- The items with those between two borders replaced by others, of which there may be more or
fewer. -/
def splice (xs : List Int) (start stop : Int) (data : List Int) : List Int :=
  let first := Sequence.border xs.length start
  xs.take first ++ data ++ xs.drop (max first (Sequence.border xs.length stop))

/-! ## Instructions -/

/-- A word and the operation that it was found to stand for. -/
structure Instruction where
  op : Operation
  opcode : Int
  deriving DecidableEq, Repr

namespace Instruction

def x (i : Instruction) : Int := i.opcode / 256 % 16
def y (i : Instruction) : Int := i.opcode / 16 % 16
def n (i : Instruction) : Int := i.opcode % 16
def kk (i : Instruction) : Int := i.opcode % 256
def nnn (i : Instruction) : Int := i.opcode % 4096

end Instruction

/-- The operations of the families that have one. -/
def families : List (Int × Operation) :=
  [(0x1, .jump), (0x2, .call), (0x3, .skipIfByte), (0x4, .skipUnlessByte), (0x5, .skipIfEqual),
   (0x6, .loadByte), (0x7, .addByte), (0x9, .skipUnlessEqual), (0xA, .loadIndex),
   (0xB, .jumpOffset), (0xC, .random), (0xD, .draw)]

/-- The words of family `0`. -/
def systemWords : List (Int × Operation) := [(0x00E0, .clearScreen), (0x00EE, .ret)]

/-- The last digits of family `8`. -/
def arithmeticDigits : List (Int × Operation) :=
  [(0x0, .copy), (0x1, .or), (0x2, .and), (0x3, .xor), (0x4, .add), (0x5, .sub),
   (0x6, .shiftRight), (0x7, .subFrom), (0xE, .shiftLeft)]

/-- The low bytes of family `E`. -/
def keyBytes : List (Int × Operation) := [(0x9E, .skipIfPressed), (0xA1, .skipUnlessPressed)]

/-- The low bytes of family `F`. -/
def otherBytes : List (Int × Operation) :=
  [(0x07, .readDelay), (0x0A, .awaitKey), (0x15, .setDelay), (0x18, .setSound), (0x1E, .addIndex),
   (0x29, .loadGlyph), (0x33, .storeDecimal), (0x55, .storeRegisters), (0x65, .loadRegisters)]

/-- Finds the operation of a word.  In the families with one operation that is a lookup that must
succeed. -/
def decode (opcode : Int) : Except Slip Instruction :=
  let w := opcode % 65536
  let family := w / 4096
  if family = 0x0 then
    if w = 0 then .ok ⟨.halt, w⟩ else .ok ⟨(systemWords.lookup w).getD .unknown, w⟩
  else if family = 0x8 then .ok ⟨(arithmeticDigits.lookup (w % 16)).getD .unknown, w⟩
  else if family = 0xE then .ok ⟨(keyBytes.lookup (w % 256)).getD .unknown, w⟩
  else if family = 0xF then .ok ⟨(otherBytes.lookup (w % 256)).getD .unknown, w⟩
  else
    match families.lookup family with
    | some op => .ok ⟨op, w⟩
    | none => .error (.family family)

/-! ## Arithmetic -/

def add8 (a b : Int) : Int × Int := ((a + b) % 256, if 255 < a + b then 1 else 0)

def sub8 (a b : Int) : Int × Int := ((a - b) % 256, if b < a then 1 else 0)

def shr8 (a : Int) : Int × Int := (a / 2 % 128, a % 2)

def shl8 (a : Int) : Int × Int := (2 * a % 256, a / 128 % 2)

/-- A bitwise operation on the low bytes of two numbers. -/
def bitwise (f : Nat → Nat → Nat) (a b : Int) : Int := f (a % 256).toNat (b % 256).toNat

def digits (value : Int) : List Int :=
  let b := value % 256
  [b / 100, b / 10 % 10, b % 10]

/-! ## Parts of the machine -/

section Parts
variable {σ : Type}

/-- The result of a lookup, or the slip that it makes. -/
def orSlip {α : Type} : Except Slip α → Effect σ α
  | .ok a => pure a
  | .error s => throw (.slip s)

def getV (i : Int) : Effect σ Int := do
  let m ← get
  orSlip (item m.v i)

/-- Stores a byte in a register. -/
def putV (i value : Int) : Effect σ Unit := do
  let m ← get
  let v ← orSlip (put m.v i value)
  set { m with v }

/-- Stores the low byte of a value in a register. -/
def setV (i value : Int) : Effect σ Unit := putV i (value % 256)

/-- Stores a flag as it is. -/
def setFlag (value : Int) : Effect σ Unit := putV 0xF value

def setIndex (value : Int) : Effect σ Unit := modify fun m => { m with index := value % 65536 }

def jump (address : Int) : Effect σ Unit := modify fun m => { m with pc := address }

def advance : Effect σ Unit := modify fun m => { m with pc := (m.pc + 2) % 65536 }

def push (address : Int) : Effect σ Unit := do
  let m ← get
  if m.depth ≤ m.stack.length then throw (.violation (.stack (.overflow m.depth)))
  else set { m with stack := address % 65536 :: m.stack }

def pop : Effect σ Int := do
  let m ← get
  match m.stack with
  | [] => throw (.violation (.stack .underflow))
  | address :: stack =>
    set { m with stack }
    return address

/-- Refuses a stretch of addresses that does not lie within memory. -/
def check (address length : Int) : Effect σ Unit :=
  if address < 0 ∨ (Memory.size : Int) < address + length then
    throw (.violation (.memory ⟨address, length⟩))
  else pure ()

def readWord (address : Int) : Effect σ Int := do
  check address 2
  let m ← get
  let high ← orSlip (item m.memory address)
  let low ← orSlip (item m.memory (address + 1))
  return high * 256 + low

def readBlock (address length : Int) : Effect σ (List Int) := do
  check address length
  let m ← get
  orSlip (bytes (Sequence.between m.memory address (address + length)))

def writeBlock (address : Int) (data : List Int) : Effect σ Unit := do
  let data ← orSlip (bytes data)
  check address data.length
  modify fun m => { m with memory := splice m.memory address (address + data.length) data }

/-- Flips one pixel, and tells whether it or one before it was lit. -/
def flipPixel (hit : Bool) (x y : Int) : Effect σ Bool := do
  let m ← get
  let i := y % 32 * 64 + x % 64
  let p ← orSlip (item m.pixels i)
  let pixels ← orSlip (put m.pixels i (if p % 2 = 0 then p + 1 else p - 1))
  set { m with pixels }
  return hit || p ≠ 0

def flipPixels (hit : Bool) : List (Int × Int) → Effect σ Bool
  | [] => return hit
  | (x, y) :: rest => do
    let hit ← flipPixel hit x y
    flipPixels hit rest

/-- The machine with a line added to the trace if the trace is switched on. -/
def recorded (m : Bare σ) (line : TraceLine) : Bare σ :=
  if m.tracing then { m with trace := m.trace.push line } else m

def record (line : TraceLine) : Effect σ Unit := modify (·.recorded line)

end Parts

/-! ## Handlers

A handler tells whether it has set the program counter; if not, that is moved on afterwards. -/

section Handlers
variable {σ : Type}

/-- A value that an instruction reads. -/
abbrev Operand (σ α : Type) := Instruction → Effect σ α

abbrev Handler (σ : Type) := Operand σ Bool

def vx : Operand σ Int := fun i => getV i.x

def vy : Operand σ Int := fun i => getV i.y

def immediate : Operand σ Int := fun i => return i.kk

def drawn : Operand σ Int := fun _ => do
  let m ← get
  let (value, random) := m.random.draw
  set { m with random }
  return value

def delay : Operand σ Int := fun _ => return (← get).timers.delay.toNat

def pressed (source : Source σ) : Operand σ Bool := fun i => do
  let key ← vx i
  let m ← get
  let (down, input) := source.isDown m.input (key % 16)
  set { m with input }
  return down

/-- A value of two others. -/
def both {α : Type} (f : Int → Int → α) (left right : Operand σ Int) : Operand σ α := fun i => do
  let a ← left i
  let b ← right i
  return f a b

/-- Stores a value in the first register. -/
def store (value : Operand σ Int) : Handler σ := fun i => do
  let result ← value i
  setV i.x result
  return false

/-- Stores a value in the first register and then its flag. -/
def storeFlagged (value : Operand σ (Int × Int)) : Handler σ := fun i => do
  let (result, flag) ← value i
  setV i.x result
  setFlag flag
  return false

/-- Passes over the next instruction if a condition holds. -/
def skip (condition : Operand σ Bool) : Handler σ := fun i => do
  if ← condition i then advance
  return false

def clearScreen : Handler σ := fun _ => do
  modify fun m => { m with pixels := List.replicate m.pixels.length 0 }
  return false

def ret : Handler σ := fun _ => do
  let address ← pop
  jump address
  return true

def call : Handler σ := fun i => do
  let m ← get
  push (m.pc + 2)
  jump i.nnn
  return true

def jumpOffset : Handler σ := fun i => do
  let offset ← getV 0
  jump ((i.nnn + offset) % 65536)
  return true

/-- Points the index register to a value. -/
def point (value : Operand σ Int) : Handler σ := fun i => do
  let address ← value i
  setIndex address
  return false

def indexPlus : Operand σ Int := fun i => do
  let m ← get
  let offset ← vx i
  return m.index + offset

def drawSprite : Handler σ := fun i => do
  let m ← get
  let rows ← readBlock m.index i.n
  let x ← vx i
  let y ← vy i
  let hit ← flipPixels false (Screen.spritePoints x y rows)
  setFlag (if hit then 1 else 0)
  return false

def awaitKey (source : Source σ) : Handler σ := fun i => do
  modify fun m => { m with input := source.clearEvents m.input, waiting := some i.x }
  return true

/-- Sets one of the timers. -/
def setTimer (f : Timers → Int → Timers) : Handler σ := fun i => do
  let value ← vx i
  modify fun m => { m with timers := f m.timers value }
  return false

def storeDecimal : Handler σ := fun i => do
  let m ← get
  let value ← vx i
  writeBlock m.index (digits value)
  return false

def storeRegisters : Handler σ := fun i => do
  let m ← get
  writeBlock m.index (Sequence.between m.v 0 (i.x + 1))
  return false

def loadRegisters : Handler σ := fun i => do
  let m ← get
  let data ← readBlock m.index (i.x + 1)
  modify fun m => { m with v := splice m.v 0 (i.x + 1) data }
  return false

/-- The handlers of the operations.  The end of the program has none. -/
def handlers (source : Source σ) : List (Operation × Handler σ) :=
  [(.clearScreen, clearScreen), (.ret, ret),
   (.jump, fun i => do jump i.nnn; return true), (.call, call), (.jumpOffset, jumpOffset),
   (.skipIfByte, skip (both (· == ·) vx immediate)),
   (.skipUnlessByte, skip (both (· != ·) vx immediate)),
   (.skipIfEqual, skip (both (· == ·) vx vy)), (.skipUnlessEqual, skip (both (· != ·) vx vy)),
   (.loadByte, store immediate), (.addByte, store (both (· + ·) vx immediate)), (.copy, store vy),
   (.or, store (both (bitwise (· ||| ·)) vx vy)), (.and, store (both (bitwise (· &&& ·)) vx vy)),
   (.xor, store (both (bitwise (· ^^^ ·)) vx vy)),
   (.add, storeFlagged (both add8 vx vy)), (.sub, storeFlagged (both sub8 vx vy)),
   (.shiftRight, storeFlagged fun i => return shr8 (← vx i)),
   (.subFrom, storeFlagged (both sub8 vy vx)),
   (.shiftLeft, storeFlagged fun i => return shl8 (← vx i)),
   (.random, store (both (bitwise (· &&& ·)) drawn immediate)),
   (.loadIndex, point fun i => return i.nnn), (.addIndex, point indexPlus),
   (.loadGlyph, point fun i => return Memory.fontStart + (← vx i) % 16 * Memory.glyphSize),
   (.draw, drawSprite), (.skipIfPressed, skip (pressed source)),
   (.skipUnlessPressed, skip fun i => return !(← pressed source i)),
   (.awaitKey, awaitKey source), (.readDelay, store delay), (.setDelay, setTimer Timers.setDelay),
   (.setSound, setTimer Timers.setSound), (.storeDecimal, storeDecimal),
   (.storeRegisters, storeRegisters), (.loadRegisters, loadRegisters),
   (.unknown, fun _ => return false)]

end Handlers

/-! ## Steps -/

section Step
variable {σ : Type} (source : Source σ)

/-- Looks the description of an instruction up, for the trace and the log. -/
def describe (i : Instruction) : Effect σ Unit :=
  if Operation.all.contains i.op then pure () else throw (.slip (.description i.op))

/-- Every operation has a description. -/
theorem describe_eq (i : Instruction) : (describe i : Effect σ Unit) = pure () := by
  have described : Operation.all.contains i.op = true := by
    rw [List.contains_iff_mem]
    exact i.op.mem_all
  rw [describe, if_pos described]

/-- Looks the handler of an instruction up and carries the instruction out. -/
def carryOut (i : Instruction) : Effect σ Unit :=
  match (handlers source).lookup i.op with
  | none => throw (.slip (.handler i.op))
  | some handler => do
    let moved ← handler i
    if !moved then advance

theorem carryOut_eq (i : Instruction) (handler : Handler σ)
    (found : (handlers source).lookup i.op = some handler) :
    carryOut source i = handler i >>= fun moved => if !moved then advance else pure () := by
  rw [carryOut, found]

/-- Fetches the word at the program counter and carries it out. -/
def fetchAndExecute : Effect σ Outcome := do
  let m ← get
  let opcode ← readWord m.pc
  if opcode = 0 then return .halted
  else
    let i ← orSlip (decode opcode)
    describe i
    record (.executed m.pc (.ofInt opcode))
    carryOut source i
    return .running

/-- Asks for the key that a register waits for. -/
def serviceWait (x : Int) : Effect σ Outcome := do
  let m ← get
  let (key, input) := source.poll m.input
  set { m with input }
  match key with
  | none => return .running
  | some key =>
    setV x (key % 16)
    modify fun m => { m with waiting := none }
    advance
    return .running

/-- The machine with one more step counted. -/
def counted (m : Bare σ) : Bare σ := { m with steps := m.steps + 1 }

/-- Stops the machine at the fault that a violation of the instruction at `pc` comes to.  A slip is
not caught. -/
def caught (pc : Int) :
    EStateM.Result Failure (Bare σ) Outcome → Except Failure (Outcome × Bare σ)
  | .ok o after => .ok (o, after)
  | .error (.violation v) left =>
    let o := Machine.faultAt pc v
    .ok (o, { left.recorded (.failed v) with fault := some o })
  | .error (.slip s) _ => .error (.slip s)

/-- A step apart from the timers.  Nothing is caught while the machine waits for a key. -/
def cycle (m : Bare σ) : Except Failure (Outcome × Bare σ) :=
  match m.fault with
  | some o => .ok (o, m)
  | none =>
    match m.waiting with
    | some x =>
      match (serviceWait source x).run m.counted with
      | .ok o after => .ok (o, after)
      | .error f _ => .error f
    | none => caught m.pc ((fetchAndExecute source).run m.counted)

section Cycle
variable (m : Bare σ)

theorem cycle_stopped (o : Outcome) (fault : m.fault = some o) : cycle source m = .ok (o, m) := by
  unfold cycle
  rw [fault]

theorem cycle_waiting (x : Int) (fault : m.fault = none) (waiting : m.waiting = some x) :
    cycle source m =
      match (serviceWait source x).run m.counted with
      | .ok o after => .ok (o, after)
      | .error f _ => .error f := by
  unfold cycle
  rw [fault, waiting]

theorem cycle_running (fault : m.fault = none) (waiting : m.waiting = none) :
    cycle source m = caught m.pc ((fetchAndExecute source).run m.counted) := by
  unfold cycle
  rw [fault, waiting]

end Cycle

/-- One step after the time of a reading. -/
def step (m : Bare σ) (elapsed : Reading) : Except Uncaught (Outcome × Bare σ) :=
  match m.timers.update elapsed with
  | .error e => .error (.timer e)
  | .ok (timers, _) =>
    match cycle source { m with timers } with
    | .ok result => .ok result
    | .error f => .error (.failure f)

end Step

end Bare
end Chip8
