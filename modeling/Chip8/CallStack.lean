/-!
# Call stack

The return addresses of the calls that have not returned yet, the latest first.  The number of
entries is bounded; a refused operation changes nothing.
-/
namespace Chip8

/-- Why a stack operation is refused. -/
inductive StackError where
  | overflow (depth : Int)
  | underflow
  deriving DecidableEq, Repr

def StackError.message : StackError → String
  | .overflow depth => "Exceeded max subroutine depth of " ++ toString depth
  | .underflow => "Cannot return with an empty call stack"

/-- Return addresses, the latest first, at most `depth` of them. -/
structure CallStack where
  depth : Int := 16
  entries : List UInt16 := []
  deriving DecidableEq, Repr

namespace CallStack

/-- The number of entries. -/
def size (s : CallStack) : Nat := s.entries.length

/-- Adds the low sixteen bits of an address. -/
def push (s : CallStack) (address : Int) : Except StackError CallStack :=
  if s.depth ≤ s.size then .error (.overflow s.depth)
  else .ok { s with entries := UInt16.ofInt address :: s.entries }

/-- Takes the latest address off. -/
def pop (s : CallStack) : Except StackError (UInt16 × CallStack) :=
  match s.entries with
  | [] => .error .underflow
  | a :: rest => .ok (a, { s with entries := rest })

/-- The entries in the order of the calls. -/
def bottomFirst (s : CallStack) : List UInt16 := s.entries.reverse

/-- The stack without entries. -/
def cleared (s : CallStack) : CallStack := { s with entries := [] }

end CallStack
end Chip8
