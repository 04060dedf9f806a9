/-!
# Paths

A path is a root, which may be empty, and names.  Single points and empty names between slashes are
left out; double points are kept.  Two slashes in front make a root of their own, any other number
above zero the usual one.
-/
namespace Chip8

/-- A path of the file system. -/
structure Path where
  root : String
  names : List String
  deriving DecidableEq, Repr

namespace Path

/-- The root that a number of leading slashes makes. -/
def rootOf (slashes : Nat) : String :=
  if slashes = 0 then "" else if slashes = 2 then "//" else "/"

/-- The path that a text names. -/
def ofText (s : String) : Path where
  root := rootOf (s.toList.takeWhile (· = '/')).length
  names := (s.splitOn "/").filter fun n => n ≠ "" && n ≠ "."

/-- The shortest text of the path. -/
def text (p : Path) : String :=
  if p.root.isEmpty && p.names.isEmpty then "." else p.root ++ "/".intercalate p.names

/-- The last name, empty if there is none. -/
def name (p : Path) : String := p.names.getLast?.getD ""

/-- The path of an entry of this folder. -/
def entry (p : Path) (name : String) : Path := { p with names := p.names ++ [name] }

end Path
end Chip8
