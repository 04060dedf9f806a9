import Chip8.CommandLine.Command
import Chip8.CommandLine.Value
import Chip8.Console.Frame
import Chip8.Console.Markup
import Chip8.Listing
import Chip8.Settings

/-!
# Carrying out commands

What a command shows, logs and writes, as a function of its options, the files and the clock.  A
run is prepared, carried out against the clock, and reported; preparing and reporting do not depend
on how time passes.
-/
namespace Chip8.CommandLine

/-- Why a command fails. -/
inductive Failure where
  | settings (e : SettingsError)
  | file (e : FileError)
  | image (e : ImageTooLarge)
  | value (e : ValueError)
  deriving DecidableEq, Repr

def Failure.message : Failure → String
  | settings e => e.message
  | file e => e.message
  | image e => e.message
  | value e => e.message

/-- How the program ends. -/
inductive Status where
  /-- the command was carried out, and this is its code -/
  | returned (code : Nat)
  /-- the command line was answered or refused -/
  | exited (code : Nat)
  /-- a run broke off, and no command answers for that -/
  | broken (e : RunError)
  deriving DecidableEq, Repr

/-- What a command line came to: lines on the console, lines of help, a complaint about the command
line, the logger, the sleeps, and the files afterwards. -/
structure Report where
  status : Status
  console : List String := []
  help : List String := []
  complaint : List String := []
  logger : Logging.Logger := {}
  consoleLevel : Int := 30
  sleeps : List Binary64 := []
  files : FileTree

/-- The width of the console in cells. -/
def consoleWidth : Nat := 120

/-- Lines for a text whose tags are not shown. -/
def markedUp (s : String) : List String := Console.wrap consoleWidth (Console.shown s)

/-- Lines for a text that is shown as it is. -/
def verbatim (s : String) : List String := Console.wrap consoleWidth s

/-- The lines that tell a failure. -/
def failureLines (message : String) : List String := markedUp ("Error: " ++ message)

/-! ## Running a program -/

/-- The least level of log records that the console shows. -/
def consoleLevel (verbosity : Nat) : Int :=
  if verbosity = 0 then 30 else if verbosity = 1 then 20 else 10

/-- The settings of a run; a limit of zero means none. -/
def RunOptions.settings (o : RunOptions) : Settings where
  program := some (Path.ofText o.rom)
  seed := o.seed
  rate := .real o.rate
  maxSteps := if o.maxSteps = 0 then none else some o.maxSteps
  tracing := o.tracing

/-- A run on its way: the runner, its limit, the logger and the files. -/
structure Prepared where
  runner : Runner
  limit : Option Int
  logger : Logging.Logger
  files : FileTree

/-- The logger with more notices. -/
def logNotices (l : Logging.Logger) (ns : List Notice) : Logging.Logger :=
  ns.foldl (fun l n => l.log (.ofNotice n)) l

/-- A step of the preparation that fails, with the logger and the files as they are then. -/
structure Unprepared where
  failure : Failure
  logger : Logging.Logger
  files : FileTree

/-- The machine with breakpoints at addresses that are read from text. -/
def withBreakpoints (m : Machine) : List String → Except ValueError Machine
  | [] => .ok m
  | s :: rest =>
    match address s with
    | .ok a => withBreakpoints (m.addBreakpoint a) rest
    | .error e => .error e

/-- Prepares a run: the settings are checked, the logger is set up, the program is loaded, and then
breakpoints and key presses are read. -/
def RunOptions.prepare (o : RunOptions) (files : FileTree) (clock : Clock) (stamp : String) :
    Except Unprepared Prepared := do
  let fail {α : Type} (l : Logging.Logger) (files : FileTree) (f : Failure) : Except Unprepared α :=
    .error ⟨f, l, files⟩
  let settings ←
    match o.settings.check with
    | .ok s => pure s
    | .error e => fail {} files (.settings e)
  let setup : Logging.Setup :=
    { consoleLevel := consoleLevel o.verbosity, folder := o.logFolder.map Path.ofText }
  let (logger, files) ←
    match Logging.Logger.setUp {} setup stamp files with
    | .ok r => pure r
    | .error e => fail {} files (.file e)
  let path := Path.ofText o.rom
  let image ←
    match files.read path with
    | .ok data => pure data
    | .error e => fail logger files (.file e)
  let logger := logNotices logger [.imageRead path.text image.length]
  let machine : Machine := { random := .seeded (settings.seed.getD 0) }
  let machine ←
    match machine.load image with
    | .ok m => pure m
    | .error e => fail logger files (.image e)
  let logger := logNotices logger (Machine.loadNotices image)
  let machine ←
    match withBreakpoints { machine with tracing := settings.tracing } o.breakpoints with
    | .ok m => pure m
    | .error e => fail logger files (.value e)
  let presses ←
    match o.presses.mapM scheduledPress with
    | .ok ps => pure ps
    | .error e => fail logger files (.value e)
  let runner : Runner :=
    { machine, clock, rate := settings.rate, onFrame := some (actionsAt presses) }
  return ⟨(initialActions presses).foldl Runner.act runner, settings.maxSteps, logger, files⟩

/-- The screen in a panel. -/
def screenLines (s : Screen) : List String :=
  Console.panel "CHIP-8 64×32" Screen.width (s.text "█" " ")

/-- The registers in a table, and a line with the rest of the state. -/
def registerLines (m : Machine) : List String :=
  let r := m.registers
  let columns := (List.finRange 16).map fun i =>
    ("V" ++ Text.hex 1 i.val, Text.hex 2 (r.get i).toNat)
  let stack := r.stack.bottomFirst.map fun a => Text.hex 3 a.toNat
  let rest := "PC=$" ++ Text.hex 3 r.pc ++ "  I=$" ++ Text.hex 3 r.index.toNat
    ++ "  SP=" ++ toString r.stack.size ++ "  DT=" ++ toString m.timers.delay.toNat
    ++ "  ST=" ++ toString m.timers.sound.toNat ++ "  stack: "
    ++ (if stack.isEmpty then "-" else " ".intercalate stack)
  Console.headedTable "Registers" columns ++ markedUp rest
    ++ match m.waiting with
      | some x => markedUp ("Waiting for key press into V" ++ Text.hex 1 x.val)
      | none => []

/-- What is shown of a run that has stopped. -/
def resultLines (m : Machine) (result : RunResult) : List String :=
  (if m.tracing then verbatim (Text.unlines m.traceLines) else [])
    ++ screenLines m.screen ++ registerLines m
    ++ markedUp (result.reason.text ++ " after " ++ toString result.steps ++ " steps: "
      ++ result.outcome.text)

/-- The report of a run that ended in one way or another. -/
def Prepared.report (p : Prepared) (level : Int) (r : Runner)
    (ending : Option (Except RunError RunResult)) : Report :=
  let notices := r.events.toList.filterMap fun e =>
    match e with
    | .notice n => some n
    | _ => none
  let sleeps := r.events.toList.filterMap fun e =>
    match e with
    | .slept x => some x
    | _ => none
  let (status, console) : Status × List String :=
    match ending with
    | some (.ok result) =>
      (.returned (if result.reason = .fault then 1 else 0), resultLines r.machine result)
    | some (.error (.clock .interrupted)) => (.returned 130, markedUp "Interrupted")
    | some (.error e) => (.broken e, [])
    | none => (.broken (.timer .endless), [])
  { status, console, sleeps, consoleLevel := level,
    logger := logNotices p.logger notices, files := p.files }

/-- Runs a program against the clock. -/
def RunOptions.carryOut (o : RunOptions) (files : FileTree) (clock : Clock) (stamp : String) :
    Report :=
  let level := consoleLevel o.verbosity
  match o.prepare files clock stamp with
  | .error u =>
    { status := .returned 1, console := failureLines u.failure.message, consoleLevel := level,
      logger := u.logger, files := u.files }
  | .ok p =>
    let (r, ending) := p.runner.run p.limit
    p.report level r ending

/-! ## Listing and summary -/

/-- The report of a command that fails. -/
def failed (files : FileTree) (f : Failure) : Report :=
  { status := .returned 1, console := failureLines f.message, files }

/-- Lists a program, on the console or into a file. -/
def ListOptions.carryOut (o : ListOptions) (files : FileTree) : Report :=
  match files.read (Path.ofText o.rom) with
  | .error e => failed files (.file e)
  | .ok data =>
    match address o.base with
    | .error e => failed files (.value e)
    | .ok base =>
      let listing := Text.unlines (Listing.lines o.described base data)
      match o.output with
      | none | some "" => { status := .returned 0, console := verbatim listing, files }
      | some output =>
        match files.write (Path.ofText output) (listing ++ "\n").toUTF8.toList with
        | .error e => failed files (.file e)
        | .ok files =>
          let done := "Wrote " ++ output ++ " (" ++ toString (data.length / 2) ++ " instructions)"
          { status := .returned 0, console := markedUp done, files }

/-- Whether a program fits into memory. -/
def fits (data : List UInt8) : Bool := data.length ≤ Memory.programCapacity

/-- The facts about a program, by name. -/
def facts (data : List UInt8) : List (String × String) :=
  [("Size", toString data.length ++ " bytes"),
   ("Capacity", toString Memory.programCapacity ++ " bytes at $" ++ Text.hex 3 Memory.programStart),
   ("Fits", if fits data then "yes" else "NO")]
  ++ (if fits data && !data.isEmpty then
    [("Ends at", "$" ++ Text.hex 3 (Memory.programStart + data.length - 1 : Nat))]
  else [])

/-- The rows of the first instructions. -/
def InfoOptions.rows (o : InfoOptions) (data : List UInt8) : List Listing.Row :=
  Listing.rows Memory.programStart (Sequence.between data 0 (2 * o.count))

/-- Summarises a program and shows its first instructions. -/
def InfoOptions.carryOut (o : InfoOptions) (files : FileTree) : Report :=
  let path := Path.ofText o.rom
  match files.read path with
  | .error e => failed files (.file e)
  | .ok data =>
    { status := .returned (if fits data then 0 else 1),
      console := Console.namedValues (Console.shown path.name) (facts data)
        ++ (o.rows data).flatMap fun r => verbatim r.describedText
      files }

/-- Carries out a command. -/
def Command.carryOut (c : Command) (files : FileTree) (clock : Clock) (stamp : String) : Report :=
  match c with
  | .run o => o.carryOut files clock stamp
  | .list o => o.carryOut files
  | .info o => o.carryOut files

/-- What a command line comes to. -/
def answer (args : List String) (files : FileTree) (clock : Clock) (stamp : String) : Report :=
  match request args with
  | .command c => c.carryOut files clock stamp
  | .idle => { status := .returned 0, help := generalHelp, files }
  | .help lines => { status := .exited 0, help := lines, files }
  | .version => { status := .exited 0, help := [programName ++ " " ++ Logging.version], files }
  | .refused complaint => { status := .exited 2, complaint, files }

end Chip8.CommandLine
