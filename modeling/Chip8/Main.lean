import Chip8.CommandLine.Report
import Std.Time.Format

/-!
# The program

The outermost layer.  It looks at the files that a command line names, reads the clock, sleeps, and
shows and writes what the commands come to.  What they come to is decided elsewhere.
-/
namespace Chip8.CommandLine

/-! ## Files -/

/-- The text of the names that lead to a place from the root. -/
def absolute (names : List String) : String := "/" ++ "/".intercalate names

/-- The tree with what stands along some names, from a folder that is known. -/
def survey (t : FileTree) (folder : List String) : List String → IO FileTree
  | [] => return t
  | name :: rest => do
    if name = ".." then survey t folder.dropLast rest
    else
      let names := folder ++ [name]
      let here := (← IO.currentDir) / absolute names
      if ← here.isDir then survey { t with folders := names :: t.folders } names rest
      else if ← here.pathExists then
        return { t with files := (names, (← IO.FS.readBinFile here).toList) :: t.files }
      else return t

/-- The paths that a command names. -/
def Command.paths : Command → List Path
  | run o => Path.ofText o.rom :: o.logFolder.toList.map Path.ofText
  | list o => Path.ofText o.rom :: o.output.toList.map Path.ofText
  | info o => [Path.ofText o.rom]

/-- What a command may find of the file system. -/
def Command.surroundings (c : Command) : IO FileTree := do
  let here := (← IO.currentDir).toString
  let known : FileTree := { here := (here.splitOn "/").filter (· ≠ "") }
  c.paths.foldlM (fun t p =>
    match FileTree.usable p with
    | .ok () => survey t (t.start p) p.names
    | .error _ => pure t) known

/-- Makes the folders and writes the files that are new or have changed. -/
def keep (before after : FileTree) : IO Unit := do
  for names in after.folders.reverse do
    IO.FS.createDirAll (absolute names)
  for (names, data) in after.files do
    unless before.files.lookup names = some data do
      IO.FS.writeBinFile (absolute names) ⟨data.toArray⟩

/-! ## Time -/

/-- The time of day, in a given format. -/
def timeOfDay (format : String) : IO String := do
  return (← Std.Time.PlainDateTime.now).format format

/-- The reading of the clock, in seconds. -/
def reading : IO Number := do
  return .real (.ofQuotient false ((← IO.monoNanosNow) * Binary64.unitsPerOne) 1000000000)

/-- Sleeps for at least a millisecond less than the given time. -/
def sleepFor (seconds : Binary64) : IO Unit :=
  match seconds with
  | .finite false units => IO.sleep (units * 1000 / Binary64.unitsPerOne).toUInt32
  | _ => pure ()

/-! ## Carrying out commands -/

/-- Hands a record to the handlers of a logger. -/
def emit (l : Logging.Logger) (r : Logging.Record) : IO Unit := do
  for h in l.handlers do
    if h.level ≤ r.level then
      match h.target with
      | .file path =>
        let line := (← timeOfDay "uuuu-MM-dd HH:mm:ss") ++ " | " ++ r.fileLine
        IO.FS.withFile path.text .append fun file => file.putStrLn line
      | .colouredConsole | .plainConsole =>
        IO.println ((← timeOfDay "HH:mm:ss") ++ " | " ++ r.consoleLine)

/-- Hands the notices of a runner to the logger; the runner has none afterwards. -/
def emitNotices (l : Logging.Logger) (r : Runner) : IO Runner := do
  for e in r.events do
    if let .notice n := e then emit l (.ofNotice n)
  return { r with events := #[] }

/-- Runs a machine against the clock. -/
partial def runAgainstClock (l : Logging.Logger) (period : Option Binary64) (limit : Option Int)
    (r : Runner) (steps : Nat) (outcome : Outcome) : IO (Runner × Except RunError RunResult) := do
  match (← emitNotices l r).stopBefore limit steps with
  | (r, some reason) => stop r ⟨reason, outcome, steps⟩
  | (r, none) =>
    match r.tickAt (← reading) with
    | (r, .error e) => return (r, .error e)
    | (r, .ok outcome) =>
      match Runner.stopAfter outcome with
      | some reason => stop r ⟨reason, outcome, steps + 1⟩
      | none =>
        if let some p := period then
          if let .ok (some seconds) := r.remainingAt p (← reading) then sleepFor seconds
        runAgainstClock l period limit r (steps + 1) outcome
where
  stop (r : Runner) (result : RunResult) : IO (Runner × Except RunError RunResult) := do
    return (← emitNotices l (r.finish result), .ok result)

/-- Shows a report, and answers the code of the program. -/
def Report.conclude (r : Report) : IO UInt32 := do
  for line in r.console ++ r.help do
    IO.println line
  for line in r.complaint do
    IO.eprintln line
  match r.status with
  | .returned code | .exited code => return code.toUInt32
  | .broken _ =>
    IO.eprintln (programName ++ ": the clock went wrong")
    return 1

/-- Runs a program. -/
def RunOptions.perform (o : RunOptions) (files : FileTree) : IO UInt32 := do
  let seed ← match o.seed with
    | some n => pure n
    | none => pure ((← IO.getRandomBytes 8).foldl (fun n b => n * 256 + b.toNat) 0 : Nat)
  let level := consoleLevel o.verbosity
  let clock := Clock.repeating (.whole 0) [] false
  match { o with seed := some seed }.prepare files clock (← timeOfDay "uuuuMMdd_HHmmss") with
  | .error u =>
    keep files u.files
    for record in u.logger.records do
      emit u.logger record
    Report.conclude { (failed u.files u.failure) with consoleLevel := level }
  | .ok p =>
    keep files p.files
    for record in p.logger.records do
      emit p.logger record
    let (r, ending) ←
      match p.runner.period? with
      | .error e => pure (p.runner, .error e)
      | .ok period => runAgainstClock p.logger period p.limit p.runner 0 .running
    (p.report level r (some ending)).conclude

/-- Carries out what a command line asks for. -/
def perform (args : List String) : IO UInt32 := do
  let clock := Clock.repeating (.whole 0) [] false
  match request args with
  | .command (.run o) => do o.perform (← (Command.run o).surroundings)
  | .command c => do
    let files ← c.surroundings
    let report := c.carryOut files clock ""
    keep files report.files
    report.conclude
  | _ => (answer args {} clock "").conclude

end Chip8.CommandLine

def main (args : List String) : IO UInt32 := Chip8.CommandLine.perform args
