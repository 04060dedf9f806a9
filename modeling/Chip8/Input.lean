import Chip8.Keypad

/-!
# Input source

The machine asks three things of its input: whether a key is down, for the next press, and to
forget the presses so far.  A keypad answers from its state.  A scripted source answers from a fixed
set of keys and a list of presses, and forgets nothing.
-/
namespace Chip8

/-- A source of key input. -/
inductive Input where
  | keypad (k : Keypad)
  | scripted (down : List Int) (presses : List (Option Int))
  deriving DecidableEq, Repr

namespace Input

/-- Whether a key is down. -/
def isDown : Input → Fin 16 → Bool
  | keypad k, key => k.isDown key
  | scripted down _, key => down.contains (key.val : Int)

/-- Takes the next press, if there is one. -/
def poll : Input → Option Int × Input
  | keypad k =>
    let (key, k) := k.poll
    (key.map fun i => (i.val : Int), keypad k)
  | scripted down presses => (presses.head?.join, scripted down presses.tail)

/-- Forgets the presses so far. -/
def clearEvents : Input → Input
  | keypad k => keypad k.clearEvents
  | scripted down presses => scripted down presses

/-- The source after the machine is reset: a keypad lets every key go. -/
def reset : Input → Input
  | keypad k => keypad k.reset
  | scripted down presses => scripted down presses

/-- The keypad, if the source is one. -/
def keypad? : Input → Option Keypad
  | keypad k => some k
  | scripted _ _ => none

end Input
end Chip8
