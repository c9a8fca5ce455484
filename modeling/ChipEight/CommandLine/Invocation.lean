/-
Invocations: what a command line asks for.

The options of the group come before the name of the command, those of the command after it.
A command line is refused before anything is done if an option is unknown, an argument is
missing or left over, a number is malformed or too small, a program does not exist, or an
output is a directory.  A request for help or for the version is answered before the
arguments are looked at.
-/
import ChipEight.CommandLine.Options
import ChipEight.Files
import ChipEight.Text.Numeral

namespace ChipEight.CommandLine

/-- What the options of the group say. -/
structure Common where
  /-- Whether everything is logged. -/
  verbose : Bool
  /-- Whether shifts store their result twice, if that was said. -/
  shiftsBoth : Option Bool
  deriving DecidableEq, Repr

/-- A command with its arguments.  Programs and outputs are given by their paths. -/
inductive Command where
  /-- Lists a program. -/
  | disasm (rom : String) (withAddress : Bool) (address : String) (output : Option String)
    (count : Option Int)
  /-- Runs a program and shows the registers after every cycle. -/
  | debug (rom : String) (maxCycles : Int) (strict : Bool)
  /-- Runs a program in a window. -/
  | run (rom : String) (scale : Option Int)
  /-- Runs a program and saves a picture of the display. -/
  | screenshot (rom output : String) (cycles scale : Int)
  deriving DecidableEq, Repr

/-- What a command line asks for. -/
inductive Invocation where
  /-- The version. -/
  | version
  /-- Help, with the name of the command if it is about one. -/
  | help (command : Option String)
  /-- To carry out a command. -/
  | command (common : Common) (command : Command)
  deriving DecidableEq, Repr

/-! ### Options -/

/-- The options of the group. -/
inductive GroupOption where
  | verbose
  | shiftsBoth (on : Bool)
  | version
  | help
  deriving DecidableEq, Repr

/-- The options of the commands. -/
inductive CommandOption where
  | withAddress
  | address
  | output
  | count
  | maxCycles
  | strict
  | scale
  | cycles
  | help
  deriving DecidableEq, Repr

/-- The options of the group by name. -/
def groupSwitches : List (Switch GroupOption) :=
  [ ⟨.verbose, ["-v", "--verbose"], false⟩,
    ⟨.shiftsBoth true, ["--shift-quirk"], false⟩,
    ⟨.shiftsBoth false, ["--no-shift-quirk"], false⟩,
    ⟨.version, ["--version"], false⟩,
    ⟨.help, ["--help"], false⟩ ]

/-- The names of the commands. -/
inductive CommandName where
  | disasm
  | debug
  | run
  | screenshot
  deriving DecidableEq, Repr

namespace CommandName

/-- The name as it is written. -/
def text : CommandName → String
  | disasm => "disasm"
  | debug => "debug"
  | run => "run"
  | screenshot => "screenshot"

/-- The command with a name. -/
def ofText? (name : String) : Option CommandName :=
  [disasm, debug, run, screenshot].find? (·.text = name)

/-- The options of a command by name. -/
def switches : CommandName → List (Switch CommandOption)
  | disasm =>
    [ ⟨.withAddress, ["--with-addr"], false⟩, ⟨.address, ["-a", "--address"], true⟩,
      ⟨.output, ["-o", "--output"], true⟩, ⟨.count, ["-c", "--count"], true⟩,
      ⟨.help, ["--help"], false⟩ ]
  | debug =>
    [ ⟨.maxCycles, ["--max-cycles"], true⟩, ⟨.strict, ["--strict"], false⟩,
      ⟨.help, ["--help"], false⟩ ]
  | run => [ ⟨.scale, ["-s", "--scale"], true⟩, ⟨.help, ["--help"], false⟩ ]
  | screenshot =>
    [ ⟨.cycles, ["-n", "--cycles"], true⟩, ⟨.scale, ["-s", "--scale"], true⟩,
      ⟨.help, ["--help"], false⟩ ]

end CommandName

/-! ### Values -/

/-- The value of an option; of several the last one counts. -/
def lastValue (given : Given CommandOption) (o : CommandOption) : Option String :=
  (given.reverse.find? (·.1 = o)).bind (·.2)

/-- Whether an option was given. -/
def isGiven (given : Given CommandOption) (o : CommandOption) : Bool := given.any (·.1 = o)

/-- The value of an option as an integer of at least `least`. -/
def integerValue (given : Given CommandOption) (o : CommandOption) (name : String)
    (least : Int) : Except Problem (Option Int) :=
  match lastValue given o with
  | none => .ok none
  | some text =>
    match Numeral.read .ten text with
    | .ok n => if least ≤ n then .ok (some n) else .error (.badInteger name text)
    | .error _ => .error (.badInteger name text)

/-- What stands at a path. -/
abbrev Probe := String → Files.Entry

/-- Accepts a path that can be handed to the operating system. -/
def checkUsable (path : String) : Except Problem Unit :=
  if Files.isUsable path then .ok () else .error (.unusablePath path)

/-- A path to a program, which has to be a file. -/
def romPath (probe : Probe) (path : String) : Except Problem String := do
  checkUsable path
  match probe path with
  | .file _ | .full => return path
  | _ => .error (.badPath "ROM" path)

/-- A path to write to, which must not be a directory. -/
def outputPath (probe : Probe) (path : String) : Except Problem String := do
  checkUsable path
  match probe path with
  | .directory => .error (.badPath "OUTPUT" path)
  | _ => return path

/-- The argument at a place, which has a name in messages. -/
def argument (others : List String) (place : Nat) (name : String) : Except Problem String :=
  match others[place]? with
  | some text => .ok text
  | none => .error (.argumentMissing name)

/-- Accepts arguments of which no more than `count` are given. -/
def checkCount (others : List String) (count : Nat) : Except Problem Unit :=
  match others.drop count with
  | [] => .ok ()
  | extra :: _ => .error (.surplusArgument extra)

/-! ### Reading a command line -/

/-- Accepts the value of an option that was given. -/
def checkOption (probe : Probe) (given : Given CommandOption) (o : CommandOption) :
    Except Problem Unit := do
  match o with
  | .output => let _ ← (lastValue given .output).mapM (outputPath probe)
  | .count => let _ ← integerValue given .count "--count" 0
  | .maxCycles => let _ ← integerValue given .maxCycles "--max-cycles" 1
  | .scale => let _ ← integerValue given .scale "--scale" 1
  | .cycles => let _ ← integerValue given .cycles "--cycles" 1
  | .withAddress | .address | .strict | .help => return

/-- The command that options and other arguments describe.  The options are looked at first, in
the order in which they were given, then the arguments, and then whether there are too many of
those. -/
def commandOf (probe : Probe) (name : CommandName) (given : Given CommandOption)
    (others : List String) : Except Problem Command := do
  given.forM fun (o, _) => checkOption probe given o
  match name with
  | .disasm =>
    let address := (lastValue given .address).getD "0"
    let output ← (lastValue given .output).mapM (outputPath probe)
    let count ← integerValue given .count "--count" 0
    let rom ← romPath probe (← argument others 0 "ROM")
    checkCount others 1
    return .disasm rom (isGiven given .withAddress) address output count
  | .debug =>
    let maxCycles ← integerValue given .maxCycles "--max-cycles" 1
    let rom ← romPath probe (← argument others 0 "ROM")
    checkCount others 1
    return .debug rom (maxCycles.getD 10000) (isGiven given .strict)
  | .run =>
    let scale ← integerValue given .scale "--scale" 1
    let rom ← romPath probe (← argument others 0 "ROM")
    checkCount others 1
    return .run rom scale
  | .screenshot =>
    let cycles ← integerValue given .cycles "--cycles" 1
    let scale ← integerValue given .scale "--scale" 1
    let rom ← romPath probe (← argument others 0 "ROM")
    let output ← outputPath probe (← argument others 1 "OUTPUT")
    checkCount others 2
    return .screenshot rom output (cycles.getD 1000) (scale.getD 8)

/-- What the options of the group say. -/
def commonOf (given : Given GroupOption) : Common where
  verbose := given.any (·.1 = .verbose)
  shiftsBoth := given.reverse.findSome? fun o =>
    match o.1 with
    | .shiftsBoth on => some on
    | _ => none

/-- The first request for the version or for help among the options of the group. -/
def immediate? (given : Given GroupOption) : Option Invocation :=
  given.findSome? fun o =>
    match o.1 with
    | .version => some .version
    | .help => some (.help none)
    | _ => none

/-- Reads a command after the options of the group. -/
def readCommand (probe : Probe) (common : Common) (name : CommandName) (args : List String) :
    Except Problem Invocation := do
  let (given, others) ← scan name.switches true args
  if isGiven given .help then return .help (some name.text)
  return .command common (← commandOf probe name given others)

/-- Whether a text in the place of a command looks like an option. -/
def looksLikeOption (text : String) : Bool :=
  match text.toList with
  | c :: _ => !c.isAlphanum
  | [] => false

/-- The problem with a text in the place of a command.  One that looks like an option is read
as an option of the group once more, so that a late request for help is answered. -/
def refuseCommand (name : String) (args : List String) : Except Problem Invocation := do
  if looksLikeOption name then
    let (given, _) ← scan groupSwitches false args
    match immediate? given with
    | some invocation => return invocation
    | none => .error (.unknownCommand name)
  else .error (.unknownCommand name)

/-- What a command line asks for, or why it is refused. -/
def readInvocation (probe : Probe) (args : List String) : Except Problem Invocation := do
  let (given, others) ← scan groupSwitches false args
  match immediate? given with
  | some invocation => return invocation
  | none =>
    match others with
    | [] => .error .commandMissing
    | name :: rest =>
      match CommandName.ofText? name with
      | some command => readCommand probe (commonOf given) command rest
      | none => refuseCommand name others

end ChipEight.CommandLine
