import Chip8.Files.Path
import Chip8.Pacing

/-!
# Settings of a run

What a host chooses for one run: the program, the seed of the random source, the rate of frames,
the greatest number of steps, and whether a trace is kept.
-/
namespace Chip8

/-- Why settings are refused. -/
inductive SettingsError where
  | rate (e : RateError)
  | steps (n : Int)
  deriving DecidableEq, Repr

def SettingsError.message : SettingsError → String
  | rate e => e.message
  | steps n => Numeral.naming "max_steps must be >= 0, got " n

/-- The settings of a run; no limit means until the program ends. -/
structure Settings where
  program : Option Path := none
  seed : Option Int := none
  rate : Number := .real (.ofQuotient false (60 * Binary64.unitsPerOne) 1)
  maxSteps : Option Int := none
  tracing : Bool := false
  deriving DecidableEq, Repr

namespace Settings

/-- Settings with a rate and a limit that are not below zero; the rate is looked at first. -/
def check (s : Settings) : Except SettingsError Settings :=
  match checkRate s.rate with
  | .error e => .error (.rate e)
  | .ok _ =>
    match s.maxSteps with
    | some n => if n < 0 then .error (.steps n) else .ok s
    | none => .ok s

end Settings
end Chip8
