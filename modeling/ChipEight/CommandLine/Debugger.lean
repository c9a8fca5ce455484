/-
The debugger: a run with the registers shown after every cycle.

The debugger goes through the same cycles as a run.  Each cycle that executes an instruction
gets a block of text, numbered from zero; a word without an instruction ends the transcript
with a line of its own, unless it is an error in a strict run.
-/
import ChipEight.CommandLine.Report
import ChipEight.Console.Inspect

namespace ChipEight.CommandLine.Debugger

/-- How many bytes of the program are shown at the start. -/
def sampleSize : Int := 10

/-- All registers of a console. -/
def registers (c : Console) : String := ((c.formatRegisters 0 15).toOption).getD ""

/-- The first bytes of the program. -/
def sample (c : Console) : String :=
  ((c.formatMemory sampleSize Memory.programStart).toOption).getD ""

/-- What is shown before the first cycle. -/
def preamble (c : Console) : List Piece :=
  [.outLine "Init state", .outLine "Ram @ 0x200 : ", .outLine (sample c), .outLine (registers c)]

/-- What is shown after a cycle. -/
def block (number : Nat) (cycle : Cycle) (c : Console) : List Piece :=
  [.outLine s!"\nResult for cycle {number}", .outLine (registers c),
    .outLine s!"Executed {Hex.marked 4 cycle.word.toNat}"]

/-- What is shown where a word without an instruction is met. -/
def stopLine (cycle : Cycle) : Piece :=
  .outLine
    ("\nStopped at unknown opcode " ++ Hex.marked 4 cycle.word.toNat ++
      " (" ++ Hex.marked 3 cycle.address.toNat ++ ")")

/-- A transcript that is done: the failure that ended it, if there was one, and the console
afterwards. -/
structure Transcript where
  /-- The failure that ended the run, if there was one. -/
  failure : Option Failure
  /-- The console afterwards. -/
  console : Console
  /-- What was printed and noted, in order. -/
  pieces : List Piece

/-- Goes on with a transcript for up to `n` more cycles; the pieces so far are given with the
latest first. -/
def cycles (strict : Bool) : Nat → Nat → Console → List Piece → Transcript
  | 0, _, console, pieces => ⟨none, console, pieces.reverse⟩
  | n + 1, number, console, pieces =>
    match console.peek with
    | .error fault => ⟨some (.fault fault), console, pieces.reverse⟩
    | .ok word =>
      if word = 0 then ⟨none, console, pieces.reverse⟩
      else
        match console.step with
        | ⟨.error fault, console, log⟩ =>
          ⟨some (.fault fault), console, ((log.map Piece.log).reverse ++ pieces).reverse⟩
        | ⟨.ok cycle, console, log⟩ =>
          let pieces := (log.map Piece.log).reverse ++ pieces
          if cycle.isImplemented then
            cycles strict n (number + 1) console ((block number cycle console).reverse ++ pieces)
          else if strict then
            ⟨some (.unknownWord cycle.word.toNat cycle.address.toNat), console, pieces.reverse⟩
          else ⟨none, console, (stopLine cycle :: pieces).reverse⟩

/-- The transcript of a console that has just loaded its program. -/
def transcript (c : Console) (maxCycles : Int) (strict : Bool) : Transcript :=
  cycles strict maxCycles.toNat 0 c (preamble c).reverse

end ChipEight.CommandLine.Debugger
