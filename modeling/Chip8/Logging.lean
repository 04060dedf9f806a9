import Chip8.Files.Tree
import Chip8.Notice
import Chip8.Text.Layout

/-!
# Logging

A logger passes records on to its handlers: optionally a file, which keeps everything, and a console
that shows what matters more.  Loggers and handlers have a least level.  A logger is set up once;
setting it up again changes nothing.
-/
namespace Chip8.Logging

/-- The version of the machine. -/
def version : String := "1.0.0"

/-- The name of the logger above all parts of the machine. -/
def rootName : String := "chip8_vm"

/-- The name of a level, which is spelled out for levels without one. -/
def levelName (n : Int) : String :=
  if n = 0 then "NOTSET"
  else if n = 10 then "DEBUG"
  else if n = 20 then "INFO"
  else if n = 30 then "WARNING"
  else if n = 40 then "ERROR"
  else if n = 50 then "CRITICAL"
  else "Level " ++ toString n

/-- A message on its way, with the name of the logger it was given to. -/
structure Record where
  level : Int
  logger : String
  message : String
  deriving DecidableEq, Repr

namespace Record

/-- The record of a notice. -/
def ofNotice (n : Notice) : Record := ⟨n.level.number, n.origin.name, n.message⟩

/-- A line of a log file, without its time and place. -/
def fileLine (r : Record) : String :=
  Text.padRight 7 (levelName r.level) ++ " | " ++ r.logger ++ " | " ++ r.message

/-- A line of a plain console, without its time. -/
def consoleLine (r : Record) : String :=
  Text.padRight 7 (levelName r.level) ++ " | " ++ r.message

/-- Level, logger and message. -/
def text (r : Record) : String :=
  levelName r.level ++ " " ++ r.logger ++ " " ++ r.message

end Record

/-- Where a handler puts records: a file, a console with colours, or a plain one. -/
inductive Target where
  | file (path : Path)
  | colouredConsole
  | plainConsole
  deriving DecidableEq, Repr

/-- A target and the least level it takes. -/
structure Handler where
  target : Target
  level : Int
  deriving DecidableEq, Repr

/-- A logger.  It passes on what is at least at its level; a logger at level zero has not chosen
one and uses that of warnings. -/
structure Logger where
  name : String := rootName
  level : Int := 0
  handlers : List Handler := []
  records : Array Record := #[]
  deriving DecidableEq, Repr

/-- How a logger is set up. -/
structure Setup where
  level : Int := 10
  consoleLevel : Int := 30
  folder : Option Path := none
  coloured : Bool := true
  deriving DecidableEq, Repr

namespace Logger

/-- Takes a record, if it is at a high enough level, which is never zero or below. -/
def log (l : Logger) (r : Record) : Logger :=
  let least := if l.level = 0 then 30 else l.level
  if 0 < r.level && least ≤ r.level then { l with records := l.records.push r } else l

/-- The records that reach handlers of a level. -/
def reaching (l : Logger) (level : Int) : List Record :=
  l.records.toList.filter fun r => level ≤ r.level

/-- The name of the log file of a logger, with the time at which it was begun. -/
def fileName (name stamp : String) : String := name ++ "_" ++ stamp ++ ".log"

/-- Sets the logger up, unless it has handlers.  The folder of the log file is made if need be. -/
def setUp (l : Logger) (s : Setup) (stamp : String) (files : FileTree) :
    Except FileError (Logger × FileTree) := do
  if !l.handlers.isEmpty then return (l, files)
  let console : Handler := ⟨if s.coloured then .colouredConsole else .plainConsole, s.consoleLevel⟩
  match s.folder with
  | none => return ({ l with level := s.level, handlers := [console] }, files)
  | some folder =>
    let files ← files.makeFolder folder
    let path := folder.entry (fileName l.name stamp)
    let files ← files.write path []
    let l := { l with level := s.level, handlers := [⟨.file path, 10⟩, console] }
    let opening := l.name ++ " " ++ version ++ " logging to " ++ path.text ++ " (console "
      ++ levelName s.consoleLevel ++ ")"
    return (l.log ⟨20, l.name, opening⟩, files)

/-- The lines of each log file. -/
def fileLines (l : Logger) : List (Path × List String) :=
  l.handlers.filterMap fun h =>
    match h.target with
    | .file path => some (path, (l.reaching h.level).map Record.fileLine)
    | _ => none

/-- The lines on plain consoles. -/
def plainLines (l : Logger) : List String :=
  l.handlers.flatMap fun h =>
    match h.target with
    | .plainConsole => (l.reaching h.level).map Record.consoleLine
    | _ => []

end Logger
end Chip8.Logging
