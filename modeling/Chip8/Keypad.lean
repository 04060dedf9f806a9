import Chip8.Notice
import Chip8.Numeral.Integer
import Chip8.Text.LowerCase

/-!
# Keypad

Sixteen keys, each up or down, and a queue of the presses that found their key up.  The queue holds
the latest sixteen.  A layout binds the names of physical keys to the sixteen keys; a name is looked
up in lower case.
-/
namespace Chip8

/-- A number that names no key. -/
structure KeyError where
  key : Int
  deriving DecidableEq, Repr

def KeyError.message (e : KeyError) : String :=
  Numeral.naming "Logical key out of range: " e.key

/-- The key with a number. -/
def key? (n : Int) : Except KeyError (Fin 16) :=
  if h : 0 ≤ n ∧ n < 16 then .ok ⟨n.toNat, by omega⟩ else .error ⟨n⟩

/-- The key that the low four bits of a number name. -/
def lowKey (n : Int) : Fin 16 := ⟨(n % 16).toNat, by omega⟩

/-- Names of physical keys and the keys they are bound to. -/
abbrev Layout := List (String × Fin 16)

namespace Layout

/-- The usual layout: the four by four block of keys at the left of a keyboard. -/
def standard : Layout :=
  [("1", lowKey 0x1), ("2", lowKey 0x2), ("3", lowKey 0x3), ("4", lowKey 0xC),
   ("q", lowKey 0x4), ("w", lowKey 0x5), ("e", lowKey 0x6), ("r", lowKey 0xD),
   ("a", lowKey 0x7), ("s", lowKey 0x8), ("d", lowKey 0x9), ("f", lowKey 0xE),
   ("z", lowKey 0xA), ("x", lowKey 0x0), ("c", lowKey 0xB), ("v", lowKey 0xF)]

/-- Binds a name; a name that is bound already keeps its place. -/
def bind (bindings : List (String × Int)) (name : String) (key : Int) : List (String × Int) :=
  if bindings.any (·.1 = name) then
    bindings.map fun (n, k) => if n = name then (n, key) else (n, k)
  else bindings ++ [(name, key)]

/-- The layout with the given bindings, of which the last one of a name counts. -/
def ofPairs (pairs : List (String × Int)) : Except KeyError Layout :=
  (pairs.foldl (fun bs p => bind bs p.1 p.2) []).mapM fun (name, n) => do
    return (name, ← key? n)

end Layout

/-- The keys that are down, the queued presses with the oldest first, and the layout. -/
structure Keypad where
  down : Vector Bool 16 := Vector.replicate 16 false
  events : List (Fin 16) := []
  layout : Layout := .standard
  deriving DecidableEq, Repr

namespace Keypad

/-- The number of presses that the queue holds. -/
def capacity : Nat := 16

/-- Whether a key is down. -/
def isDown (k : Keypad) (key : Fin 16) : Bool := k.down.get key

/-- Adds a press to a queue, whose oldest one gives way when it is full. -/
def enqueue (events : List (Fin 16)) (key : Fin 16) : List (Fin 16) :=
  let all := events ++ [key]
  all.drop (all.length - capacity)

/-- Presses a key; only a key that was up makes an event. -/
def press (k : Keypad) (key : Fin 16) : Keypad :=
  if k.isDown key then k
  else { k with down := k.down.setIfInBounds key true, events := enqueue k.events key }

/-- What is reported when a key is pressed. -/
def pressNotices (k : Keypad) (key : Fin 16) : List Notice :=
  if k.isDown key then [] else [.keyDown key]

/-- Lets a key go. -/
def release (k : Keypad) (key : Fin 16) : Keypad := { k with down := k.down.setIfInBounds key false }

/-- Lets every key go. -/
def releaseAll (k : Keypad) : Keypad := { k with down := Vector.replicate 16 false }

/-- The key that the name of a physical key is bound to. -/
def bound? (k : Keypad) (name : String) : Option (Fin 16) :=
  k.layout.lookup (Text.lowerCase name)

/-- Presses a physical key by its name. -/
def pressNamed (k : Keypad) (name : String) : Keypad :=
  match k.bound? name with
  | some key => k.press key
  | none => k

/-- Lets a physical key go by its name. -/
def releaseNamed (k : Keypad) (name : String) : Keypad :=
  match k.bound? name with
  | some key => k.release key
  | none => k

/-- Forgets the queued presses. -/
def clearEvents (k : Keypad) : Keypad := { k with events := [] }

/-- Takes the oldest queued press. -/
def poll (k : Keypad) : Option (Fin 16) × Keypad :=
  match k.events with
  | [] => (none, k)
  | key :: rest => (some key, { k with events := rest })

/-- Lets every key go and forgets the queued presses. -/
def reset (k : Keypad) : Keypad := k.releaseAll.clearEvents

end Keypad
end Chip8
