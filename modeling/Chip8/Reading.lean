import Chip8.Numeral.Number
import Chip8.Text.Quoted

/-!
# Readings of a host's clock

A host reports elapsed time in milliseconds.  It may hand over anything; only a finite number that
is not negative counts as time, and a truth value counts as the number one or zero.
-/
namespace Chip8

/-- What a host hands over as elapsed time. -/
inductive Reading where
  | number (n : Number)
  | flag (b : Bool)
  | text (s : String)
  | missing
  | sequence (items : List Reading)
  | table (entries : List (String × Reading))
  deriving Inhabited

namespace Reading

mutual

/-- The reading as it is shown in a message. -/
def shown : Reading → String
  | number n => n.text
  | flag b => if b then "True" else "False"
  | text s => Text.quoted s
  | missing => "None"
  | sequence items => "[" ++ ", ".intercalate (shownItems items) ++ "]"
  | table entries => "\x7b" ++ ", ".intercalate (shownEntries entries) ++ "\x7d"

def shownItems : List Reading → List String
  | [] => []
  | r :: rest => r.shown :: shownItems rest

def shownEntries : List (String × Reading) → List String
  | [] => []
  | (key, r) :: rest => (Text.quoted key ++ ": " ++ r.shown) :: shownEntries rest

end

/-- Sixty times a whole number of milliseconds, in the units of double precision. -/
def wholeUnits (n : Int) : Except ConversionError (Option Nat) :=
  match Binary64.ofInt? n with
  | none => .error .tooLarge
  | some _ =>
    if n < 0 then .ok none
    else
      let units := Binary64.roundUnits (Binary64.unitsPerOne * (60 * n.toNat)) 1
      if Binary64.overflow ≤ units then .error .tooLarge else .ok (some units)

/-- Sixty times the elapsed milliseconds, in the units of double precision and rounded to it; `none`
when the reading does not count as time.  The count may be infinite in double precision. -/
def units? : Reading → Except ConversionError (Option Nat)
  | number (.whole n) => wholeUnits n
  | flag b => wholeUnits (if b then 1 else 0)
  | number (.real (.finite negative u)) =>
    if negative && u != 0 then .ok none else .ok (some (Binary64.roundUnits (u * 60) 1))
  | _ => .ok none

end Reading
end Chip8
