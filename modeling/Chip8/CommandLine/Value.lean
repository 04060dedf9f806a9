import Chip8.Keypad
import Chip8.Numeral.Integer
import Chip8.Pacing
import Chip8.Text.Split

/-!
# Values on the command line

Addresses are hexadecimal and may be marked by `0x` or by a dollar sign.  A scheduled key press is a
key, the step at which it goes down and, optionally, the number of steps for which it is held.
-/
namespace Chip8.CommandLine

/-- Why a value is refused. -/
inductive ValueError where
  | notHexadecimal (text : String)
  | pressForm (text : String)
  | pressRange (text : String)
  deriving DecidableEq, Repr

def ValueError.message : ValueError → String
  | notHexadecimal s => "invalid literal for int() with base 16: " ++ Text.quoted s
  | pressForm s => "Bad --press value " ++ Text.quoted s ++ " (expected KEY@STEP[:HOLD])"
  | pressRange s => "Bad --press value " ++ Text.quoted s

/-- The text after the dollar sign of an address, if it has one. -/
def withoutDollar (s : String) : String :=
  match s.toList with
  | '$' :: rest => String.ofList rest
  | _ => s

/-- Reads an address. -/
def address (s : String) : Except ValueError Int :=
  let digits := withoutDollar (Text.strip s)
  match Numeral.hexadecimal? digits with
  | some n => .ok n
  | none => .error (.notHexadecimal digits)

/-- A key, the step at which it is pressed, and the number of steps for which it is held. -/
structure ScheduledPress where
  key : Fin 16
  step : Nat
  hold : Nat
  deriving DecidableEq, Repr

/-- The number of steps for which a key is held unless the value says otherwise. -/
def defaultHold : Int := 5

/-- The three numbers of a scheduled press. -/
def pressNumbers? (s : String) : Option (Int × Int × Int) := do
  let (key, rest) ← Text.splitFirst? '@' s
  let (step, hold) ←
    match Text.splitFirst? ':' rest with
    | some (step, hold) => do
      let hold ← Numeral.decimal? hold
      some (step, hold)
    | none => some (rest, defaultHold)
  some (← Numeral.hexadecimal? key, ← Numeral.decimal? step, hold)

/-- Reads a scheduled press. -/
def scheduledPress (s : String) : Except ValueError ScheduledPress :=
  match pressNumbers? s with
  | none => .error (.pressForm s)
  | some (key, step, hold) =>
    match key? key with
    | .ok k =>
      if 0 ≤ step ∧ 1 ≤ hold then .ok ⟨k, step.toNat, hold.toNat⟩ else .error (.pressRange s)
    | .error _ => .error (.pressRange s)

/-- The keys that go down before the first step. -/
def initialActions (presses : List ScheduledPress) : List KeyAction :=
  (presses.filter fun p => p.step = 0).map fun p => .press p.key

/-- What happens to the keys when a frame is seen: first those go up whose time is over, then those
go down whose time has come. -/
def actionsAt (presses : List ScheduledPress) (steps : Nat) : List KeyAction :=
  (presses.filter fun p => p.step + p.hold = steps).map (fun p => .release p.key)
    ++ (presses.filter fun p => p.step = steps).map fun p => .press p.key

end Chip8.CommandLine
