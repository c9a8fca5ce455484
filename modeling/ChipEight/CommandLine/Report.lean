/-
Reports: everything a command does to the world.

A command ends with an exit code.  On the way it prints to the standard output, prints to the
standard error stream, notes events in the log, writes files and may open a window.  The log
goes to the standard error stream too; without the verbose option only the records from the
level of information up are shown, and without their levels.  What is printed, but not the
log, loses its control sequences unless it goes to a terminal.
-/
import ChipEight.Display.View
import ChipEight.Text.ControlSequence
import ChipEight.Window.Basic

namespace ChipEight.CommandLine

/-- Something that is printed or noted. -/
inductive Piece where
  /-- A text on the standard output. -/
  | out (text : String)
  /-- A text on the standard error stream. -/
  | err (text : String)
  /-- A record of the log. -/
  | log (record : LogRecord)

/-- A line on the standard output. -/
def Piece.outLine (text : String) : Piece := .out (text ++ "\n")

/-- A line on the standard error stream. -/
def Piece.errLine (text : String) : Piece := .err (text ++ "\n")

/-- The contents of a file that is written. -/
inductive Content where
  /-- A text. -/
  | text (s : String)
  /-- A picture. -/
  | picture (p : Display.Picture)

/-- Whether there is anything in the contents. -/
def Content.isSome : Content → Bool
  | .text s => !s.isEmpty
  | .picture _ => true

/-- Everything a command does. -/
structure Report where
  /-- The exit code. -/
  exit : Nat
  /-- What is printed and noted, in order. -/
  pieces : List Piece
  /-- The files that are written, by path. -/
  written : List (String × Content)
  /-- The window that was opened. -/
  window : Option Window.Session
  /-- Whether the standard error stream ends with a trace of an internal error. -/
  traced : Bool

namespace Report

/-- The report of a command that succeeds. -/
def success (pieces : List Piece) : Report := ⟨0, pieces, [], none, false⟩

/-- A text as it is printed. -/
def printed (terminal : Bool) (text : String) : String :=
  if terminal then text else Text.plain text

/-- What a piece adds to the standard output. -/
def outText (terminal : Bool) : Piece → String
  | .out text => printed terminal text
  | _ => ""

/-- Whether a record is shown. -/
def isShown (verbose : Bool) (r : LogRecord) : Bool := verbose || r.level ≠ .debug

/-- What a piece adds to the standard error stream. -/
def errText (verbose terminal : Bool) : Piece → String
  | .out _ => ""
  | .err text => printed terminal text
  | .log r =>
    if isShown verbose r then (if verbose then r.leveled else r.message) ++ "\n" else ""

/-- The standard output, which may be a terminal. -/
def stdout (terminal : Bool) (r : Report) : String :=
  String.join (r.pieces.map (outText terminal))

/-- The standard error stream, which may be a terminal, without the trace. -/
def stderr (verbose terminal : Bool) (r : Report) : String :=
  String.join (r.pieces.map (errText verbose terminal))

end Report

/-- What ends a command before it is done. -/
inductive Mishap where
  /-- The machine failed. -/
  | machine (f : Failure)
  /-- A parameter is wrong. -/
  | parameter (message : String)
  /-- A file is missing or may not be used. -/
  | inaccessible (message : String)
  /-- Something that should not have happened. -/
  | internal (message : String)
  deriving DecidableEq, Repr

namespace Mishap

/-- The exit code of a command that ended so. -/
def exitCode : Mishap → Nat
  | machine _ => 1
  | parameter _ => 2
  | inaccessible _ => 2
  | internal _ => 3

/-- A mishap in words; the activity that failed is named where it is known. -/
def message (activity : Option String) : Mishap → String
  | machine f =>
    match activity with
    | some a => if a.isEmpty then "Error: " ++ f.message else a ++ " error: " ++ f.message
    | none => "Error: " ++ f.message
  | parameter text => "Error: " ++ text
  | inaccessible text => "Error: " ++ text
  | internal text => "Internal error: " ++ text

/-- What a failure of the machine is for a command: a mistake of the machine itself should not have
happened. -/
def ofFailure : Failure → Mishap
  | .fault f => if f.cause.isOfProgram then machine (.fault f) else internal f.message
  | f => machine f

/-- Whether a trace follows the words. -/
def isTraced (verbose : Bool) : Mishap → Bool
  | internal _ => verbose
  | _ => false

/-- The mishap of a file that cannot be used. -/
def ofFile (e : Files.Error) (path : String) : Mishap :=
  match e with
  | .notFound | .notPermitted => .inaccessible (e.message path)
  | .notADirectory | .isADirectory | .nameTooLong | .noRoom => .internal (e.message path)

/-- The report of a command that ends with a mishap after some pieces. -/
def report (m : Mishap) (verbose : Bool) (activity : Option String) (pieces : List Piece) :
    Report :=
  ⟨m.exitCode, pieces ++ [.errLine (m.message activity)], [], none, m.isTraced verbose⟩

end Mishap
end ChipEight.CommandLine
