import Chip8.Notice

/-!
# Timers

Two byte timers count down to zero at sixty ticks a second, however often the host reports the time
that has passed.  Time is added up as sixty times the milliseconds, so that a whole number of
milliseconds is kept exactly, and a tick takes a thousand out of the sum.

The sum is a double-precision number, kept here as its count of units.
-/
namespace Chip8

/-- Why time cannot be added. -/
inductive TimerError where
  /-- a whole number of milliseconds that has no double-precision counterpart -/
  | tooLarge
  /-- so much time that taking out one tick is lost in rounding, and ticks never run out -/
  | endless
  deriving DecidableEq, Repr

def TimerError.message : TimerError → String
  | tooLarge => ConversionError.message .tooLarge
  | endless => "elapsed time never runs out of ticks"

/-- The delay timer, the sound timer, the time not yet counted as ticks and the ticks so far. -/
structure Timers where
  delay : UInt8 := 0
  sound : UInt8 := 0
  pendingUnits : Nat := 0
  ticks : Nat := 0
  deriving DecidableEq, Repr

namespace Timers

/-- What one tick takes out of the sum, in units. -/
def tickUnits : Nat := 1000 * Binary64.unitsPerOne

/-- Below this sum every difference with a tick is exact. -/
def exactBelow : Nat := Nat.pow 2 56 * Binary64.unitsPerOne

/-- Takes ticks out of a sum until less than one is left: the number of ticks and the rest.  Where
differences are exact that is a division; above, each difference is rounded, and there is no answer
once rounding gives the sum itself again. -/
def drain (sum : Nat) : Option (Nat × Nat) :=
  if sum < exactBelow then some (sum / tickUnits, sum % tickUnits)
  else
    let next := Binary64.roundUnits (sum - tickUnits) 1
    if next < sum then (drain next).map fun (ticks, rest) => (ticks + 1, rest) else none
termination_by sum

/-- The timers after a number of ticks. -/
def countDown (t : Timers) (ticks rest : Nat) : Timers where
  delay := UInt8.ofNat (t.delay.toNat - ticks)
  sound := UInt8.ofNat (t.sound.toNat - ticks)
  pendingUnits := rest
  ticks := t.ticks + ticks

/-- Adds the time of a reading and gives the number of ticks in it.  A reading that does not count
as time adds nothing. -/
def update (t : Timers) (r : Reading) : Except TimerError (Timers × Nat) :=
  match r.units? with
  | .error .tooLarge => .error .tooLarge
  | .ok added =>
    let sum := Binary64.roundUnits (t.pendingUnits + added.getD 0) 1
    if Binary64.overflow ≤ sum then .error .endless
    else
      match drain sum with
      | some (ticks, rest) => .ok (t.countDown ticks rest, ticks)
      | none => .error .endless

/-- Whether a reading is refused as time. -/
def ignores (r : Reading) : Bool :=
  match r.units? with
  | .ok none => true
  | _ => false

/-- What is reported when the timers are given a reading. -/
def notices (r : Reading) : List Notice := if ignores r then [.elapsedIgnored r] else []

def setDelay (t : Timers) (value : Int) : Timers := { t with delay := UInt8.ofInt value }

def setSound (t : Timers) (value : Int) : Timers := { t with sound := UInt8.ofInt value }

/-- Whether the buzzer sounds. -/
def soundActive (t : Timers) : Bool := 0 < t.sound

/-- The milliseconds that have not made a tick yet. -/
def pending (t : Timers) : Binary64 := .ofQuotient false t.pendingUnits 60

end Timers
end Chip8
