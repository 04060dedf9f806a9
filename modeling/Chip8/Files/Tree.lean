import Chip8.Files.Path
import Chip8.Text.Quoted

/-!
# File trees

The files and folders of a file system, with a working directory.  A path is walked from the root or
from the working directory; a file cannot be walked through, and above the root there is only the
root.
-/
namespace Chip8

/-- Why a path cannot be used. -/
inductive FileError where
  | missing (path : Path)
  | present (path : Path)
  | notFolder (path : Path)
  | isFolder (path : Path)
  | nameTooLong (path : Path)
  | zeroByte
  deriving DecidableEq, Repr

namespace FileError

/-- A numbered error of the system about a path. -/
def numbered (number : Nat) (what : String) (path : Path) : String :=
  "[Errno " ++ toString number ++ "] " ++ what ++ ": " ++ Text.quoted path.text

def message : FileError → String
  | missing p => numbered 2 "No such file or directory" p
  | present p => numbered 17 "File exists" p
  | notFolder p => numbered 20 "Not a directory" p
  | isFolder p => numbered 21 "Is a directory" p
  | nameTooLong p => numbered 36 "File name too long" p
  | zeroByte => "embedded null byte"

end FileError

/-- Files with their bytes, and folders, each by the names that lead to it from the root.  `here` is
the working directory. -/
structure FileTree where
  here : List String := []
  files : List (List String × List UInt8) := []
  folders : List (List String) := []
  deriving DecidableEq, Repr

namespace FileTree

/-- What a path leads to, with its names from the root. -/
inductive Place where
  | file (names : List String) (data : List UInt8)
  | folder (names : List String)
  | free (names : List String)
  deriving DecidableEq, Repr

/-- The greatest number of bytes in a name. -/
def nameLimit : Nat := 255

/-- The greatest number of bytes in a path. -/
def pathLimit : Nat := 4095

/-- Whether a path can be handed to the system. -/
def usable (p : Path) : Except FileError Unit :=
  if p.names.any fun n => n.toList.contains '\x00' then .error .zeroByte
  else if pathLimit < p.text.utf8ByteSize then .error (.nameTooLong p)
  else .ok ()

/-- What stands at given names.  The root and the folders around the working directory are always
there. -/
def place (t : FileTree) (names : List String) : Place :=
  if names.isPrefixOf t.here || t.folders.contains names then .folder names
  else
    match t.files.lookup names with
    | some data => .file names data
    | none => .free names

/-- Walks names from a place. -/
def walk (t : FileTree) (p : Path) : Place → List String → Except FileError Place
  | found, [] => .ok found
  | .file _ _, _ :: _ => .error (.notFolder p)
  | .free _, _ :: _ => .error (.missing p)
  | .folder names, name :: rest =>
    if name = ".." then walk t p (.folder names.dropLast) rest
    else if nameLimit < name.utf8ByteSize then .error (.nameTooLong p)
    else walk t p (t.place (names ++ [name])) rest

/-- The folder that a path starts from. -/
def start (t : FileTree) (p : Path) : List String := if p.root.isEmpty then t.here else []

/-- What a path leads to. -/
def find (t : FileTree) (p : Path) : Except FileError Place := do
  usable p
  walk t p (.folder (t.start p)) p.names

/-- The bytes of a file. -/
def read (t : FileTree) (p : Path) : Except FileError (List UInt8) := do
  match ← t.find p with
  | .file _ data => return data
  | .folder _ => throw (.isFolder p)
  | .free _ => throw (.missing p)

/-- Writes a file, which is made if its folder exists. -/
def write (t : FileTree) (p : Path) (data : List UInt8) : Except FileError FileTree := do
  match ← t.find p with
  | .file names _ | .free names =>
    return { t with files := (names, data) :: t.files.filter fun e => e.1 ≠ names }
  | .folder _ => throw (.isFolder p)

/-- Whether a path leads to a folder. -/
def isFolder (t : FileTree) (p : Path) : Bool :=
  match t.find p with
  | .ok (.folder _) => true
  | _ => false

/-- Makes one folder, in a folder that exists. -/
def makeFolderIn (t : FileTree) (p : Path) : Except FileError FileTree := do
  match ← t.find p with
  | .free names => return { t with folders := names :: t.folders }
  | .file _ _ | .folder _ => throw (.present p)

/-- The result of making a folder, unless the folder exists. -/
def orExisting (t : FileTree) (p : Path) :
    Except FileError FileTree → Except FileError FileTree
  | .ok made => .ok made
  | .error e => if t.isFolder p then .ok t else .error e

/-- Makes the folder with the given names, last one first, and those it lies in. -/
def makeFolderFrom (t : FileTree) (p : Path) : List String → Except FileError FileTree
  | [] => .ok t
  | name :: before =>
    let here : Path := { p with names := (name :: before).reverse }
    match t.makeFolderIn here with
    | .error (.missing _) => do
      let t ← makeFolderFrom t p before
      t.orExisting here (t.makeFolderIn here)
    | result => t.orExisting here result

/-- Makes a folder and those it lies in; it may exist already. -/
def makeFolder (t : FileTree) (p : Path) : Except FileError FileTree :=
  makeFolderFrom t p p.names.reverse

end FileTree
end Chip8
