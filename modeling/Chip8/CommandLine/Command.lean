import Chip8.CommandLine.Options
import Chip8.Logging
import Chip8.Numeral.Decimal

/-!
# Commands

The three commands with their options: run a program, list it, and summarise it.
-/
namespace Chip8.CommandLine

/-- The name of the program. -/
def programName : String := "chip8kit"

/-- What is asked for with `run`. -/
structure RunOptions where
  rom : String := ""
  maxSteps : Int := 10000
  rate : Binary64 := .zero
  seed : Option Int := none
  presses : List String := []
  breakpoints : List String := []
  tracing : Bool := false
  verbosity : Nat := 0
  logFolder : Option String := none
  deriving DecidableEq, Repr

/-- What is asked for with `disasm`. -/
structure ListOptions where
  rom : String := ""
  base : String := "0x200"
  described : Bool := false
  output : Option String := none
  deriving DecidableEq, Repr

/-- What is asked for with `info`. -/
structure InfoOptions where
  rom : String := ""
  count : Int := 8
  deriving DecidableEq, Repr

/-- A command with its options. -/
inductive Command where
  | run (o : RunOptions)
  | list (o : ListOptions)
  | info (o : InfoOptions)
  deriving DecidableEq, Repr

section

variable {σ : Type}

/-- The option that shows the help. -/
def helpOption : OptionSpec σ := ⟨["-h", "--help"], .help⟩

/-- A value that is any text. -/
def textValue (f : σ → String → σ) : Effect σ := .value fun v s => .ok (f v s)

/-- A value that is a whole number. -/
def integerValue (f : σ → Int → σ) : Effect σ :=
  .value fun v s =>
    match Numeral.decimal? s with
    | some n => .ok (f v n)
    | none => .error ("invalid int value: " ++ Text.quoted s)

/-- A value that is a double-precision number. -/
def realValue (f : σ → Binary64 → σ) : Effect σ :=
  .value fun v s =>
    match Numeral.binary64? s with
    | some x => .ok (f v x)
    | none => .error ("invalid float value: " ++ Text.quoted s)

end

/-- The options before the command. -/
def generalOptions : List (OptionSpec Unit) := [helpOption, ⟨["--version"], .version⟩]

def runOptions : List (OptionSpec RunOptions) := [
  helpOption,
  ⟨["--max-steps"], integerValue fun o n => { o with maxSteps := n }⟩,
  ⟨["--hz"], realValue fun o x => { o with rate := x }⟩,
  ⟨["--seed"], integerValue fun o n => { o with seed := some n }⟩,
  ⟨["--press"], textValue fun o s => { o with presses := o.presses ++ [s] }⟩,
  ⟨["--break"], textValue fun o s => { o with breakpoints := o.breakpoints ++ [s] }⟩,
  ⟨["--trace"], .change fun o => { o with tracing := true }⟩,
  ⟨["-v", "--verbose"], .change fun o => { o with verbosity := o.verbosity + 1 }⟩,
  ⟨["--log-file"], textValue fun o s => { o with logFolder := some s }⟩]

def listOptions : List (OptionSpec ListOptions) := [
  helpOption,
  ⟨["--base"], textValue fun o s => { o with base := s }⟩,
  ⟨["--describe"], .change fun o => { o with described := true }⟩,
  ⟨["-o", "--output"], textValue fun o s => { o with output := some s }⟩]

def infoOptions : List (OptionSpec InfoOptions) := [
  helpOption,
  ⟨["--count"], integerValue fun o n => { o with count := n }⟩]

def generalHelp : List String := [
  "usage: chip8kit [-h] [--version] command ...",
  "",
  "CHIP-8 VM Toolkit — run, disassemble and inspect ROMs",
  "",
  "positional arguments:",
  "  command",
  "    run       Run a ROM headless",
  "    disasm    Disassemble a ROM",
  "    info      Summarize a ROM file",
  "",
  "options:",
  "  -h, --help  show this help message and exit",
  "  --version   show program's version number and exit",
  "",
  "commands:",
  "  run        Run a ROM headless and print the final screen",
  "  disasm     Disassemble a ROM to CHIP-8 mnemonics",
  "  info       Summarize a ROM file"]

def runHelp : List String := [
  "usage: chip8kit run [-h] [--max-steps MAX_STEPS] [--hz HZ] [--seed SEED] "
    ++ "[--press KEY@STEP[:HOLD]] [--break ADDR]",
  "                    [--trace] [-v] [--log-file DIR]",
  "                    rom",
  "",
  "positional arguments:",
  "  rom                   Input .ch8 ROM file",
  "",
  "options:",
  "  -h, --help            show this help message and exit",
  "  --max-steps MAX_STEPS",
  "                        Stop after N steps (default: 10000, 0 = unlimited)",
  "  --hz HZ               Pace steps to this rate (default: 0 = as fast as possible)",
  "  --seed SEED           RNG seed for CXKK (default: random)",
  "  --press KEY@STEP[:HOLD]",
  "                        Press logical key (hex) after STEP steps, held HOLD steps "
    ++ "(default 5); repeatable",
  "  --break ADDR          Stop when PC reaches ADDR (hex); repeatable",
  "  --trace               Print instruction trace",
  "  -v, --verbose         Console log level: -v INFO, -vv DEBUG",
  "  --log-file DIR        Also write a full DEBUG log under DIR"]

def listHelp : List String := [
  "usage: chip8kit disasm [-h] [--base BASE] [--describe] [-o OUTPUT] rom",
  "",
  "positional arguments:",
  "  rom                   Input .ch8 ROM file",
  "",
  "options:",
  "  -h, --help            show this help message and exit",
  "  --base BASE           Load address (hex, default 0x200)",
  "  --describe            Append opcode descriptions",
  "  -o OUTPUT, --output OUTPUT",
  "                        Output file (default: stdout)"]

def infoHelp : List String := [
  "usage: chip8kit info [-h] [--count COUNT] rom",
  "",
  "positional arguments:",
  "  rom            Input .ch8 ROM file",
  "",
  "options:",
  "  -h, --help     show this help message and exit",
  "  --count COUNT  Number of leading instructions to show (default: 8)"]

/-- The lines of a help that show the usage. -/
def usage (help : List String) : List String := help.takeWhile (· ≠ "")

/-- What is told about a command line that a program or command refuses. -/
def complaint (program : String) (help : List String) (what : String) : List String :=
  usage help ++ [program ++ ": error: " ++ what]

/-- What a command line asks for. -/
inductive Request where
  | command (c : Command)
  /-- no command: the general help -/
  | idle
  | help (lines : List String)
  | version
  | refused (complaint : List String)
  deriving DecidableEq, Repr

/-- The complaint about arguments that nothing takes. -/
def unrecognized (left : List String) : List String :=
  complaint programName generalHelp ("unrecognized arguments: " ++ " ".intercalate left)

/-- Reads the arguments of one command; arguments left over before the command count too. -/
def readCommand {σ : Type} (name : String) (options : List (OptionSpec σ)) (help : List String)
    (defaults : σ) (make : σ → String → Command) (args before : List String) : Request :=
  let program := programName ++ " " ++ name
  match readArguments options .argument defaults args with
  | .refused what => .refused (complaint program help what)
  | .help => .help help
  | .version => .version
  | .subcommand _ _ _ => .idle
  | .arguments a =>
    match a.argument with
    | none =>
      .refused (complaint program help "the following arguments are required: rom")
    | some rom =>
      let left := before ++ a.left
      if left.isEmpty then .command (make a.values rom)
      else .refused (unrecognized left)

/-- What a command line asks for. -/
def request (args : List String) : Request :=
  match readArguments generalOptions .subcommand () args with
  | .refused what => .refused (complaint programName generalHelp what)
  | .help => .help generalHelp
  | .version => .version
  | .arguments a =>
    if a.left.isEmpty then .idle
    else .refused (unrecognized a.left)
  | .subcommand name rest left =>
    if name = "run" then
      readCommand name runOptions runHelp {} (fun o rom => .run { o with rom }) rest left
    else if name = "disasm" then
      readCommand name listOptions listHelp {} (fun o rom => .list { o with rom }) rest left
    else if name = "info" then
      readCommand name infoOptions infoHelp {} (fun o rom => .info { o with rom }) rest left
    else
      .refused (complaint programName generalHelp ("argument command: invalid choice: "
        ++ Text.quoted name ++ " (choose from 'run', 'disasm', 'info')"))

end Chip8.CommandLine
