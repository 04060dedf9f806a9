import Chip8.Numeral.Number

/-!
# Clock

A clock that a run is paced against.  Its readings are in seconds and may be any sequence of numbers:
each is told from its place in the sequence and the reading before.  Sleeping may move the clock on.
A clock may break off at one of its readings.
-/
namespace Chip8

/-- Why a clock gives no reading. -/
inductive ClockError where
  /-- a reading or a difference of readings that has no double-precision counterpart -/
  | tooLarge
  /-- the host broke off -/
  | interrupted
  deriving DecidableEq, Repr

/-- A clock: its next reading, the reading after each one, where a sleep moves it, and the number of
readings so far. -/
structure Clock where
  now : Number
  later : Nat → Number → Except ClockError Number
  rested : Number → Binary64 → Number
  interruptAt : Option Nat := none
  reads : Nat := 0

namespace Clock

/-- The clock whose readings differ by what a list repeats. -/
def repeating (start : Number) (differences : List Number) (sleepAdvances : Bool) : Clock where
  now := start
  later i now :=
    match now.add (differences.getD (i % differences.length) (.whole 0)) with
    | .ok later => .ok later
    | .error _ => .error .tooLarge
  rested now seconds :=
    if sleepAdvances then
      match now.add (.real seconds) with
      | .ok later => later
      | .error _ => now
    else now

/-- Takes a reading. -/
def read (c : Clock) : Except ClockError (Number × Clock) :=
  if c.interruptAt = some c.reads then .error .interrupted
  else
    match c.later c.reads c.now with
    | .ok later => .ok (c.now, { c with now := later, reads := c.reads + 1 })
    | .error e => .error e

/-- The clock after a sleep. -/
def sleep (c : Clock) (seconds : Binary64) : Clock := { c with now := c.rested c.now seconds }

end Clock
end Chip8
