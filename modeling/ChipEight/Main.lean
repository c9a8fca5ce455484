/-
The command `chip8`.

Everything is decided by `CommandLine.program`.  This module finds out what stands at the
paths among the arguments, reads the environment and, for a window, the standard input, and
carries out the report.  What the systems for windows and for images contribute is a parameter.

A window is shown as text.  Each line of the standard input is one thing that happens to it:
`frame`, `draw`, `close`, or `press` or `release` with the number of a key symbol.
-/
import ChipEight.CommandLine.Program

namespace ChipEight.Main

open CommandLine

/-- What stands at a path that cannot be read as a file or a directory, by the error and by
whether its directory is there. -/
def missingEntry (e : IO.Error) (parentThere : Bool) : Files.Entry :=
  match e with
  | .noFileOrDirectory .. => if parentThere then .absent else .unreachable
  | .inappropriateType .. => .blocked
  | .invalidArgument _ 36 _ => .tooLong
  | _ => .unreachable

/-- The path of the directory in which a path stands. -/
def parent (path : String) : String :=
  match (Files.components path).dropLast with
  | [] => if Files.root path = "" then "." else "/"
  | parts => Files.root path ++ "/".intercalate parts

/-- Whether a path is a directory. -/
def isDirectory (path : String) : IO Bool := do
  try
    let resolved ← IO.FS.realPath path
    resolved.isDir
  catch _ => return false

/-- What stands at a path. -/
def entryAt (path : String) : IO Files.Entry := do
  if ← isDirectory path then return .directory
  try
    let bytes ← IO.FS.readBinFile path
    return .file (bytes.toList.map fun b => BitVec.ofNat 8 b.toNat)
  catch e => return missingEntry e (← isDirectory (parent path))

/-- The texts in an argument that may be paths: the argument, and the values it may carry. -/
def pathsIn (arg : String) : List String :=
  let raw := [arg, (splitValue arg).2.getD "", String.ofList (arg.toList.drop 2)]
  raw ++ raw.map Files.normalize

/-- The variables that settings read. -/
def variableNames : List String :=
  ["CHIP8_SHIFT_QUIRK", "CHIP8_SEED", "CHIP8_CYCLES_PER_FRAME", "CHIP8_SCALE"]

/-- What a line of the standard input says has happened to the window. -/
def actionOf? (line : String) : Option Window.Action :=
  match (line.trimAscii.toString.splitOn " ").filter (!·.isEmpty) with
  | ["frame"] => some .frame
  | ["draw"] => some .draw
  | ["close"] => some .close
  | ["press", symbol] => symbol.toInt?.map .press
  | ["release", symbol] => symbol.toInt?.map .release
  | _ => none

/-- The actions on the lines of a stream. -/
partial def readActions (stream : IO.FS.Stream) (done : List Window.Action) :
    IO (List Window.Action) := do
  let line ← stream.getLine
  if line.isEmpty then return done.reverse
  match actionOf? line with
  | some a => readActions stream (a :: done)
  | none => readActions stream done

/-- A source of random bytes that differs from run to run. -/
def freshSource : IO ByteSource := do
  let bytes ← IO.getRandomBytes 16
  return .generator (Twister.ofKey (bytes.toList.map (·.toUInt32)).toArray)

/-- What the systems for windows and for images contribute. -/
structure Systems where
  /-- The key symbols. -/
  constants : Symbol.Constants
  /-- Why a picture cannot be encoded, if it cannot. -/
  refusal? : Display.Picture → Option String
  /-- The file of a picture. -/
  encode : Display.Picture → ByteArray

/-- Writes a file of the report. -/
def writeContent (systems : Systems) (path : String) : Content → IO Unit
  | .text s => IO.FS.writeFile path s
  | .picture p => IO.FS.writeBinFile path (systems.encode p)

/-- Shows the window after each response that draws it. -/
def showWindow (session : Window.Session) : IO Unit := do
  for r in session.responses do
    if r.events.contains .cleared then IO.println r.window.console.displayText

/-- Runs the command with the given arguments. -/
def run (systems : Systems) (args : List String) : IO UInt32 := do
  let paths := (args.flatMap pathsIn).eraseDups
  let entries ← paths.mapM fun path => return (path, ← entryAt path)
  let values ← variableNames.mapM fun name => return (name, ← IO.getEnv name)
  let actions ← if args.contains "run" then readActions (← IO.getStdin) [] else pure []
  let world : World :=
    { probe := fun path => (entries.lookup path).getD .unreachable
      env := fun name => (values.lookup name).join
      constants := systems.constants
      actions := actions
      refusal? := systems.refusal?
      unseeded := ← freshSource }
  let (report, verbose) := program world args
  let stdout ← IO.getStdout
  let stderr ← IO.getStderr
  stdout.putStr (report.stdout (← stdout.isTty))
  match report.window with
  | some session => showWindow session
  | none => pure ()
  for (path, content) in report.written do
    writeContent systems path content
  stderr.putStr (report.stderr verbose (← stderr.isTty))
  return UInt32.ofNat report.exit

end ChipEight.Main
