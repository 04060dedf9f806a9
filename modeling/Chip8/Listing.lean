import Chip8.Opcode.Assembly
import Chip8.Sequence

/-!
# Listings

A linear sweep over a block of bytes: one row for each pair of bytes and, when their number is odd,
one row for the last byte.  A lister also counts the mnemonics it has shown.
-/
namespace Chip8.Listing

/-- What a row shows. -/
inductive Content where
  | instruction (w : Opcode)
  | trailing (b : UInt8)
  deriving DecidableEq, Repr

/-- One row of a listing: where it stands, the bytes it shows, and what they mean. -/
structure Row where
  address : Int
  bytes : List UInt8
  content : Content
  deriving DecidableEq, Repr

namespace Row

def operation (r : Row) : Operation :=
  match r.content with
  | .instruction w => w.operation
  | .trailing _ => .unknown

def mnemonic (r : Row) : String :=
  match r.content with
  | .instruction w => w.operation.mnemonic
  | .trailing _ => "DB"

def operands (r : Row) : String :=
  match r.content with
  | .instruction w => w.operandText
  | .trailing b => "$" ++ Text.hex 2 b.toNat

def description (r : Row) : String :=
  match r.content with
  | .instruction w => w.operation.description
  | .trailing _ => "Trailing byte"

/-- Address, bytes and instruction on one line. -/
def text (r : Row) : String :=
  "$" ++ Text.hex 3 r.address ++ ": " ++ Text.padRight 4 (Text.hexBytes r.bytes) ++ "  "
    ++ assemblyText r.mnemonic r.operands

/-- The line followed by the description, which starts at a fixed column. -/
def describedText (r : Row) : String :=
  Text.padRight 36 r.text ++ "; " ++ r.description

/-- The line, with its description if that is asked for. -/
def line (described : Bool) (r : Row) : String :=
  if described then r.describedText else r.text

end Row

/-- The rows of a block whose first byte stands at `address`. -/
def rows (address : Int) : List UInt8 → List Row
  | high :: low :: rest =>
    ⟨address, [high, low], .instruction (.ofBytes high low)⟩ :: rows (address + 2) rest
  | [b] => [⟨address, [b], .trailing b⟩]
  | [] => []

/-- The lines of the listing of a block. -/
def lines (described : Bool) (address : Int) (data : List UInt8) : List String :=
  (rows address data).map (Row.line described)

/-- The row at one place of a block, if the two bytes from there exist.  The place may be counted
from the end; the bytes shown are those between the two borders, so none are when the pair runs
over the end of the block into its start. -/
def row? (data : List UInt8) (place base : Int) : Option Row := do
  let high ← Sequence.position? data.length place
  let low ← Sequence.position? data.length (place + 1)
  some ⟨base + place, Sequence.between data place (place + 2),
    .instruction (.ofBytes data[high] data[low])⟩

/-- How often each mnemonic was counted, in the order of first use. -/
abbrev Tally := List (String × Nat)

/-- Counts one more `mnemonic`. -/
def Tally.count (mnemonic : String) : Tally → Tally
  | [] => [(mnemonic, 1)]
  | (m, k) :: rest => if m = mnemonic then (m, k + 1) :: rest else (m, k) :: Tally.count mnemonic rest

/-- A lister with its count of mnemonics. -/
structure Lister where
  tally : Tally := []
  deriving DecidableEq, Repr

namespace Lister

/-- Lists a whole block; the count starts anew. -/
def list (_ : Lister) (data : List UInt8) (base : Int) : Lister × List Row :=
  let shown := rows base data
  (⟨shown.foldl (fun t r => t.count r.mnemonic) []⟩, shown)

/-- Lists one place of a block and adds it to the count. -/
def listOne (l : Lister) (data : List UInt8) (place base : Int) : Option (Lister × Row) :=
  (row? data place base).map fun r => (⟨l.tally.count r.mnemonic⟩, r)

end Lister
end Chip8.Listing
