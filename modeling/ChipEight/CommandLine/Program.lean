/-
The program: from a command line to a report.

The report depends on the arguments, on what stands at the paths they name, on the
environment, on what happens at a window if one is opened, on the systems for windows and for
images, and on the source of random bytes that serves when no seed is set.
-/
import ChipEight.CommandLine.Debugger
import ChipEight.CommandLine.Invocation
import ChipEight.CommandLine.StartAddress

namespace ChipEight.CommandLine

/-- What surrounds a command. -/
structure World where
  /-- What stands at each path. -/
  probe : Probe
  /-- The variables of the environment. -/
  env : Settings.Environment
  /-- The key symbols of the system for windows. -/
  constants : Symbol.Constants
  /-- What happens at a window. -/
  actions : List Window.Action
  /-- Why the system for images cannot encode a picture, if it cannot. -/
  refusal? : Display.Picture → Option String
  /-- Where random bytes come from when no seed is set. -/
  unseeded : ByteSource

/-- The version as it is shown. -/
def versionText : String := "chip8, version 1.0.0"

/-- The settings for a command: the environment, then the options. -/
def makeSettings (env : Settings.Environment) (shiftsBoth : Option Bool) (scale : Option Int) :
    Except Settings.Error Settings := do
  let s ← Settings.ofEnvironment env
  s.change { shiftsBoth := shiftsBoth, scale := scale }

/-- The activity that errors of a listing name. -/
def listingActivity : Option String := some "Disassembly"

/-- The activity that errors of the other commands name. -/
def runActivity : Option String := some "Emulation"

/-- A console with the program at a path, and what was noted; or the report of what went
wrong. -/
def loadConsole (world : World) (common : Common) (rom : String) (scale : Option Int) :
    Except Report (Console × List Piece) :=
  match makeSettings world.env common.shiftsBoth scale with
  | .error e => .error ((Mishap.internal e.message).report common.verbose runActivity [])
  | .ok settings =>
    let source := ByteSource.ofSeed? settings.seed world.unseeded
    let path := Files.normalize rom
    match (Console.new settings source).loadFile path (world.probe path) with
    | ⟨.error e, _, log⟩ =>
      .error ((Mishap.ofFailure e).report common.verbose runActivity (log.map .log))
    | ⟨.ok (), console, log⟩ => .ok (console, log.map .log)

/-- Writes a file, or reports that it cannot be written. -/
def writeFile (world : World) (verbose : Bool) (activity : Option String) (path : String)
    (content : Content) (before after : List Piece) : Report :=
  match (world.probe path).writable content.isSome with
  | .error e => (Mishap.ofFile e path).report verbose activity before
  | .ok () => ⟨0, before ++ after, [(path, content)], none, false⟩

/-- Lists a program. -/
def disasm (world : World) (common : Common) (rom : String) (withAddress : Bool)
    (address : String) (output : Option String) (count : Option Int) : Report :=
  let path := Files.normalize rom
  match parseAddress address with
  | none => (Mishap.parameter (invalidAddress address)).report common.verbose listingActivity []
  | some start =>
    match (world.probe path).contents with
    | .error e => (Mishap.ofFile e path).report common.verbose listingActivity []
    | .ok data =>
      let noted : List Piece := [.log (.listing path data.length start)]
      let text := Listing.text data withAddress start count
      match output with
      | some target =>
        let target := Files.normalize target
        writeFile world common.verbose listingActivity target
          (.text (if text.isEmpty then "" else text ++ "\n")) noted
          [.errLine ("Wrote " ++ target)]
      | none => .success (if text.isEmpty then noted else noted ++ [.outLine text])

/-- Runs a program and shows the registers after every cycle. -/
def debug (world : World) (common : Common) (rom : String) (maxCycles : Int) (strict : Bool) :
    Report :=
  match loadConsole world common rom none with
  | .error report => report
  | .ok (console, noted) =>
    let transcript := Debugger.transcript console maxCycles strict
    match transcript.failure with
    | some f =>
      (Mishap.ofFailure f).report common.verbose runActivity (noted ++ transcript.pieces)
    | none => .success (noted ++ transcript.pieces)

/-- Runs a program in a window. -/
def play (world : World) (common : Common) (rom : String) (scale : Option Int) : Report :=
  match loadConsole world common rom scale with
  | .error report => report
  | .ok (console, noted) =>
    let session :=
      Window.present world.constants console none (some ("CHIP-8 - " ++ Files.name rom))
        world.actions
    let pieces := noted ++ (session.responses.flatMap (·.log)).map .log
    let report :=
      match session.result with
      | .error fault =>
        (Mishap.ofFailure (.fault fault)).report common.verbose runActivity pieces
      | .ok () => .success pieces
    { report with window := some session }

/-- What a run notes when it ended at a word without an instruction. -/
def runNote (result : RunResult) : List LogRecord :=
  if result.halt = some .unknownWord then [.runStopped result] else []

/-- Runs a program and saves a picture of the display. -/
def screenshot (world : World) (common : Common) (rom output : String) (cycles scale : Int) :
    Report :=
  match loadConsole world common rom none with
  | .error report => report
  | .ok (console, noted) =>
    match console.run cycles false with
    | ⟨.error f, _, log⟩ =>
      (Mishap.ofFailure f).report common.verbose runActivity (noted ++ log.map .log)
    | ⟨.ok result, console, log⟩ =>
      let noted := noted ++ (log ++ runNote result).map .log
      match console.machine.display.render scale with
      | .error e => (Mishap.internal e.message).report common.verbose runActivity noted
      | .ok picture =>
        match world.refusal? picture with
        | some text => (Mishap.internal text).report common.verbose runActivity noted
        | none =>
          let target := Files.normalize output
          writeFile world common.verbose runActivity target (.picture picture) noted
            [.outLine s!"Saved {target} after {result.cycles} cycles"]

/-- Carries out a command. -/
def perform (world : World) (common : Common) : Command → Report
  | .disasm rom withAddress address output count =>
    disasm world common rom withAddress address output count
  | .debug rom maxCycles strict => debug world common rom maxCycles strict
  | .run rom scale => play world common rom scale
  | .screenshot rom output cycles scale => screenshot world common rom output cycles scale

/-- The summary of the group or of a command. -/
def usage : Option String → String
  | none =>
    "Usage: chip8 [OPTIONS] COMMAND [ARGS]...\n\n" ++
      "Commands: disasm, debug, run, screenshot\n" ++
      "Options: -v, --verbose; --shift-quirk, --no-shift-quirk; --version; --help\n"
  | some "disasm" =>
    "Usage: chip8 disasm [OPTIONS] ROM\n\n" ++
      "Options: --with-addr; -a, --address; -o, --output; -c, --count; --help\n"
  | some "debug" => "Usage: chip8 debug [OPTIONS] ROM\n\nOptions: --max-cycles; --strict; --help\n"
  | some "run" => "Usage: chip8 run [OPTIONS] ROM\n\nOptions: -s, --scale; --help\n"
  | some name =>
    "Usage: chip8 " ++ name ++ " [OPTIONS] ROM OUTPUT\n\n" ++
      "Options: -n, --cycles; -s, --scale; --help\n"

/-- The report of a command line that is refused.  A path that the operating system cannot take
ends the program without a word. -/
def refuse (p : Problem) : Report :=
  match p with
  | .unusablePath _ => ⟨1, [], [], none, false⟩
  | p =>
    let summary := if p.showsUsage then usage none ++ "\n" else ""
    ⟨2, [.err summary, .errLine ("Error: " ++ p.message)], [], none, false⟩

/-- The program: the report of a command line, and whether its log is verbose. -/
def program (world : World) (args : List String) : Report × Bool :=
  match readInvocation world.probe args with
  | .error p => (refuse p, false)
  | .ok .version => (.success [.outLine versionText], false)
  | .ok (.help command) => (.success [.out (usage command)], false)
  | .ok (.command common command) => (perform world common command, common.verbose)

end ChipEight.CommandLine
