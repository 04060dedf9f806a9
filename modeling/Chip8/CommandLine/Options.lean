import Chip8.Text.DecimalDigit
import Chip8.Text.Quoted
import Chip8.Text.Split

/-!
# Options

The grammar of command lines.  An option has one or more names: a short one is a dash and a
character, a long one two dashes and a word.  A long name may be shortened as long as it is the only
one with that beginning.  A value follows its option as the next argument, after an equals sign, or
directly after a short name; short names without a value may be run together.  Two dashes end the
options.  An argument that looks like a negative number is not an option.
-/
namespace Chip8.CommandLine

/-- What an option does: it shows the help or the version, or it changes the values `σ`. -/
inductive Effect (σ : Type) where
  | help
  | version
  | change (f : σ → σ)
  /-- takes a value, and says what is wrong with one that it refuses -/
  | value (f : σ → String → Except String σ)

/-- An option with its names. -/
structure OptionSpec (σ : Type) where
  names : List String
  effect : Effect σ

namespace OptionSpec

/-- All names of an option. -/
def label {σ : Type} (o : OptionSpec σ) : String := "/".intercalate o.names

/-- What is wrong with an option. -/
def complaint {σ : Type} (o : OptionSpec σ) (what : String) : String :=
  "argument " ++ o.label ++ ": " ++ what

end OptionSpec

/-- An option as it was found in an argument: the name, and what follows the name in the same
argument, with whether an equals sign is between them. -/
structure Use (σ : Type) where
  option : OptionSpec σ
  name : String
  attached : Option (Bool × String)

/-- An argument, by its kind. -/
inductive Piece (σ : Type) where
  | argument (s : String)
  | separator
  | use (u : Use σ) (s : String)
  | unknown (s : String)

/-- The argument as it was written. -/
def Piece.raw {σ : Type} : Piece σ → String
  | argument s => s
  | separator => "--"
  | use _ s => s
  | unknown s => s

section

variable {σ : Type}

/-- Every name with its option. -/
def nameTable (options : List (OptionSpec σ)) : List (String × OptionSpec σ) :=
  options.flatMap fun o => o.names.map fun n => (n, o)

/-- The uses of options that an argument with a shortened or run together name may be. -/
def candidates (options : List (OptionSpec σ)) (s : List Char) : List (Use σ) :=
  let table := nameTable options
  match s with
  | '-' :: '-' :: _ =>
    let (start, attached) :=
      match Text.splitFirst? '=' (String.ofList s) with
      | some (start, v) => (start, some (true, v))
      | none => (String.ofList s, none)
    (table.filter fun (n, _) => start.toList.isPrefixOf n.toList).map
      fun (n, o) => ⟨o, n, attached⟩
  | _ =>
    let short := String.ofList (s.take 2)
    table.filterMap fun (n, o) =>
      if n = short then some ⟨o, n, some (false, String.ofList (s.drop 2))⟩
      else if s.isPrefixOf n.toList then some ⟨o, n, none⟩
      else none

/-- Whether an argument is a dash and a decimal number, which a line end may follow. -/
def looksNegative (s : List Char) : Bool :=
  let digit (c : Char) : Bool := (Text.decimalDigit? c).isSome
  match s with
  | '-' :: rest =>
    let rest := if rest.getLast? = some '\n' then rest.dropLast else rest
    match rest.dropWhile digit with
    | [] => !rest.isEmpty
    | '.' :: fraction => !fraction.isEmpty && fraction.all digit
    | _ => false
  | _ => false

/-- The kind of an argument before the separator; it fails when a shortened name has several
meanings. -/
def classifyOne (options : List (OptionSpec σ)) (arg : String) : Except String (Piece σ) :=
  let s := arg.toList
  if s.head? ≠ some '-' then .ok (.argument arg)
  else
    match (nameTable options).lookup arg with
    | some o => .ok (.use ⟨o, arg, none⟩ arg)
    | none =>
      if s.length = 1 then .ok (.argument arg)
      else
        let exact := (Text.splitFirst? '=' arg).bind fun (name, v) =>
          ((nameTable options).lookup name).map fun o => (⟨o, name, some (true, v)⟩ : Use σ)
        match exact, candidates options s with
        | some u, _ => .ok (.use u arg)
        | none, [u] => .ok (.use u arg)
        | none, u :: v :: rest =>
          .error ("ambiguous option: " ++ arg ++ " could match "
            ++ ", ".intercalate ((u :: v :: rest).map Use.name))
        | none, [] =>
          if looksNegative s || s.contains ' ' then .ok (.argument arg) else .ok (.unknown arg)

/-- The kinds of arguments; after the separator there are no options. -/
def classify (options : List (OptionSpec σ)) : List String → Except String (List (Piece σ))
  | [] => .ok []
  | arg :: rest =>
    if arg = "--" then .ok (.separator :: rest.map .argument)
    else do return (← classifyOne options arg) :: (← classify options rest)

/-- What the options in one argument come to: what they do, in order, the option that still needs a
value, and what is no option. -/
structure Collected (σ : Type) where
  effects : List (OptionSpec σ × Option String) := []
  needy : Option (OptionSpec σ) := none
  rest : Option String := none

/-- Follows short options that are run together. -/
def collect (options : List (OptionSpec σ)) (o : OptionSpec σ) (long afterEquals : Bool) :
    List Char → Except String (Collected σ)
  | [] =>
    match o.effect with
    | .value _ => .ok { effects := [(o, some "")] }
    | _ => .error (o.complaint ("ignored explicit argument " ++ Text.quoted ""))
  | c :: tail =>
    let attached := String.ofList (c :: tail)
    match o.effect with
    | .value _ => .ok { effects := [(o, some attached)] }
    | _ =>
      if long || afterEquals || c = '-' then
        .error (o.complaint ("ignored explicit argument " ++ Text.quoted attached))
      else
        match (nameTable options).lookup (String.ofList ['-', c]) with
        | none => .ok { effects := [(o, none)], rest := some ("-" ++ attached) }
        | some next =>
          match tail with
          | [] =>
            match next.effect with
            | .value _ => .ok { effects := [(o, none)], needy := some next }
            | _ => .ok { effects := [(o, none), (next, none)] }
          | d :: more => do
            let further ←
              if d = '=' then collect options next false true more
              else collect options next false false (d :: more)
            return { further with effects := (o, none) :: further.effects }

/-- What the options in one argument come to. -/
def Use.collected (options : List (OptionSpec σ)) (u : Use σ) : Except String (Collected σ) :=
  match u.attached with
  | some (equals, v) =>
    collect options u.option ("--".toList.isPrefixOf u.name.toList) equals v.toList
  | none =>
    match u.option.effect with
    | .value _ => .ok { needy := some u.option }
    | _ => .ok { effects := [(u.option, none)] }

/-- How the reading of options ends. -/
inductive Ending (σ : Type) where
  | values (v : σ)
  | help
  | version
  | refused (what : String)

/-- Carries out what options do, in order. -/
def applyEffects (v : σ) : List (OptionSpec σ × Option String) → Ending σ
  | [] => .values v
  | (o, text) :: rest =>
    match o.effect with
    | .help => .help
    | .version => .version
    | .change f => applyEffects (f v) rest
    | .value f =>
      match f v (text.getD "") with
      | .ok v => applyEffects v rest
      | .error what => .refused (o.complaint what)

/-- What the arguments of a command come to: the values of its options, its one argument, and the
arguments that are left over. -/
structure Arguments (σ : Type) where
  values : σ
  argument : Option String := none
  left : List String := []

/-- How the reading of a command line ends.  A subcommand takes all arguments after its name. -/
inductive ReadResult (σ : Type) where
  | arguments (a : Arguments σ)
  | subcommand (name : String) (args : List String) (left : List String)
  | help
  | version
  | refused (what : String)

/-- What the reader does with the first argument that is no option. -/
inductive Expects where
  | argument
  | subcommand
  deriving DecidableEq, Repr

/-- Reads pieces in order. -/
def readPieces (options : List (OptionSpec σ)) (expects : Expects) (fuel : Nat)
    (a : Arguments σ) (pieces : List (Piece σ)) : ReadResult σ :=
  match fuel with
  | 0 => .arguments a
  | fuel + 1 =>
    match pieces with
    | [] => .arguments a
    | .unknown s :: rest => readPieces options expects fuel { a with left := a.left ++ [s] } rest
    | .use u _ :: rest =>
      match u.collected options with
      | .error what => .refused what
      | .ok c =>
        let a := { a with left := a.left ++ c.rest.toList }
        let (effects, rest) :=
          match c.needy, rest with
          | some o, .argument s :: rest => (some (c.effects ++ [(o, some s)]), rest)
          | some _, rest => (none, rest)
          | none, rest => (some c.effects, rest)
        match effects with
        | none =>
          .refused ((c.needy.map fun o => o.complaint "expected one argument").getD "")
        | some effects =>
          match applyEffects a.values effects with
          | .values v => readPieces options expects fuel { a with values := v } rest
          | .help => .help
          | .version => .version
          | .refused what => .refused what
    | .argument s :: rest =>
      match expects, a.argument with
      | .subcommand, _ => .subcommand s (rest.map Piece.raw) a.left
      | .argument, none =>
        let rest := match rest with
          | .separator :: after => after
          | rest => rest
        readPieces options expects fuel { a with argument := some s } rest
      | .argument, some _ =>
        readPieces options expects fuel { a with left := a.left ++ [s] } rest
    | .separator :: rest =>
      match expects, a.argument, rest with
      | .subcommand, _, .argument _ :: _ =>
        .subcommand "--" (rest.map Piece.raw) a.left
      | .argument, none, .argument s :: rest =>
        readPieces options expects fuel { a with argument := some s } rest
      | _, _, rest => readPieces options expects fuel { a with left := a.left ++ ["--"] } rest

/-- Reads the arguments of a command. -/
def readArguments (options : List (OptionSpec σ)) (expects : Expects) (defaults : σ)
    (args : List String) : ReadResult σ :=
  match classify options args with
  | .error what => .refused what
  | .ok pieces => readPieces options expects (args.length + 1) { values := defaults } pieces

end

end Chip8.CommandLine
