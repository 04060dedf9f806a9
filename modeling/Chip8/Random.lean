import Chip8.Random.Twister

/-!
# Random source

Where the machine takes its random values from: a seeded generator, or a list of values that is
repeated without end.
-/
namespace Chip8

/-- A source of values. -/
inductive RandomSource where
  | twister (t : Twister)
  | cycle (values : Array Int) (next : Nat)

namespace RandomSource

/-- The generator started from a seed. -/
def seeded (seed : Int) : RandomSource := .twister (.seeded seed)

/-- The source that repeats a list. -/
def repeating (values : List Int) : RandomSource := .cycle values.toArray 0

/-- Draws a value, which is a byte when the source is a generator. -/
def draw : RandomSource → Int × RandomSource
  | .twister t =>
    let (b, t) := t.byte
    (b.toNat, .twister t)
  | .cycle values next =>
    (values.getD (next % values.size) 0, .cycle values (next + 1))

end RandomSource
end Chip8
