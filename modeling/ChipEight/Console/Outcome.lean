/-
How a program ends.

A program halts at the end marker or at a word that encodes no instruction.  A run ends with
a halt or when its cycles are spent.
-/
import ChipEight.Machine.Cycle

namespace ChipEight

/-- Why a program halted. -/
inductive Halt where
  /-- The next word is the end marker. -/
  | endMarker
  /-- A word without an instruction was met. -/
  | unknownWord
  deriving DecidableEq, Repr

/-- The name of a halt in reports. -/
def Halt.name : Halt → String
  | endMarker => "SENTINEL"
  | unknownWord => "UNKNOWN_OPCODE"

/-- What a finished run has to report. -/
structure RunResult where
  /-- How many cycles were executed. -/
  cycles : Nat
  /-- Why the program halted; none if it could go on but the cycles were spent. -/
  halt : Option Halt
  /-- The last cycle, if any was executed. -/
  last : Option Cycle
  deriving DecidableEq, Repr

namespace RunResult

/-- The name of the reason for the end of a run. -/
def reasonName (r : RunResult) : String :=
  match r.halt with
  | some h => h.name
  | none => "MAX_CYCLES"

/-- A run in one line. -/
def text (r : RunResult) : String :=
  match r.halt, r.last with
  | some .endMarker, _ => s!"End of program after {r.cycles} cycles"
  | some .unknownWord, some last =>
    s!"Unknown opcode {Hex.marked 4 last.word.toNat} at " ++
      s!"{Hex.marked 3 last.address.toNat} after {r.cycles} cycles"
  | some .unknownWord, none => s!"Unknown opcode after {r.cycles} cycles"
  | none, _ => s!"Reached max cycles ({r.cycles})"

end RunResult
end ChipEight
