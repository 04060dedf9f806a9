import Chip8.CallStack
import Chip8.Memory

/-!
# Outcomes

What one step of the machine came to: it goes on, it has reached the end of the program, or it has
stopped at a fault.  Two outcomes agree when they differ at most in their detail.
-/
namespace Chip8

/-- Why an instruction cannot be carried out. -/
inductive Violation where
  | memory (e : BoundsError)
  | stack (e : StackError)
  deriving DecidableEq, Repr

/-- The reasons for a fault. -/
inductive FaultReason where
  | stackOverflow | stackUnderflow | memoryBounds
  deriving DecidableEq, Repr

def FaultReason.text : FaultReason → String
  | stackOverflow => "STACK_OVERFLOW"
  | stackUnderflow => "STACK_UNDERFLOW"
  | memoryBounds => "MEMORY_BOUNDS"

namespace Violation

def reason : Violation → FaultReason
  | memory _ => .memoryBounds
  | stack (.overflow _) => .stackOverflow
  | stack .underflow => .stackUnderflow

def message : Violation → String
  | memory e => e.message
  | stack e => e.message

end Violation

/-- The kinds of outcome. -/
inductive OutcomeKind where
  | running | halted | fault
  deriving DecidableEq, Repr

def OutcomeKind.text : OutcomeKind → String
  | running => "CONTINUE"
  | halted => "HALTED"
  | fault => "FAULT"

/-- What a step came to.  A fault has a reason and may have a detail. -/
structure Outcome where
  kind : OutcomeKind
  reason : Option FaultReason := none
  detail : String := ""
  deriving DecidableEq, Repr

namespace Outcome

def running : Outcome := { kind := .running }

def halted : Outcome := { kind := .halted }

def fault (reason : FaultReason) (detail : String) : Outcome := ⟨.fault, some reason, detail⟩

def isFault (o : Outcome) : Bool := o.kind = .fault

/-- Whether two outcomes have the same kind and reason. -/
def agrees (a b : Outcome) : Bool := a.kind = b.kind && a.reason = b.reason

/-- The outcome as text; the detail follows a fault alone. -/
def text (o : Outcome) : String :=
  match o.kind with
  | .fault =>
    let head := "Fault(" ++ (o.reason.map FaultReason.text).getD "" ++ ")"
    if o.detail.isEmpty then head else head ++ ": " ++ o.detail
  | kind => kind.text

end Outcome
end Chip8
