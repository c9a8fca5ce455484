/-
The log: what the machine and its host note down as they go.

A record is the event itself; its level and its wording are derived.  What a cycle notes
depends only on the word it fetches, and a cycle that cannot fetch notes nothing.
-/
import ChipEight.Console.Outcome

namespace ChipEight

/-- How important a record is. -/
inductive LogLevel where
  | debug
  | info
  | warning
  | error
  deriving DecidableEq, Repr

namespace LogLevel

/-- The name of a level. -/
def name : LogLevel → String
  | debug => "DEBUG"
  | info => "INFO"
  | warning => "WARNING"
  | error => "ERROR"

end LogLevel

/-- An event that is noted in the log. -/
inductive LogRecord where
  /-- An instruction is about to be executed. -/
  | executing (address : Address) (word : Word)
  /-- The end marker was fetched. -/
  | endMarker (address : Address)
  /-- A word without an instruction was fetched. -/
  | unknownWord (address : Address) (word : Word)
  /-- A program is too large to be loaded. -/
  | romRejected (size : Nat)
  /-- A program was loaded. -/
  | romLoaded (size : Nat)
  /-- The file of a program was read. -/
  | romOpened (name : String)
  /-- The program halted. -/
  | halted (halt : Halt) (pc : Address)
  /-- A window stopped running its program because of a fault. -/
  | windowStopped (fault : Fault)
  /-- A window stays open although its program halted. -/
  | windowIdle (halt : Halt)
  /-- A file is about to be listed. -/
  | listing (path : String) (size : Nat) (start : Int)
  /-- A run ended at a word without an instruction. -/
  | runStopped (result : RunResult)
  deriving DecidableEq, Repr

namespace LogRecord

/-- The level of a record. -/
def level : LogRecord → LogLevel
  | executing .. | endMarker .. | romRejected .. | listing .. => .debug
  | romLoaded .. | romOpened .. | halted .. | windowIdle .. => .info
  | unknownWord .. | runStopped .. => .warning
  | windowStopped .. => .error

/-- A record in words. -/
def message : LogRecord → String
  | executing address word => ({ address, word } : Cycle).text
  | endMarker address => "End-of-program marker at " ++ Hex.marked 3 address.toNat
  | unknownWord address word =>
    s!"Unknown opcode {Hex.marked 4 word.toNat} at {Hex.marked 3 address.toNat}"
  | romRejected size => s!"Rejecting {size}-byte ROM (limit {Memory.programLimit})"
  | romLoaded size => s!"Loaded {size} bytes at {Hex.marked 3 Memory.programStart}"
  | romOpened name => "Loading ROM " ++ name
  | halted halt pc => s!"Program halted: {halt.name} at {Hex.marked 3 pc.toNat}"
  | windowStopped fault => "Emulation stopped: " ++ fault.message
  | windowIdle halt => s!"Program halted ({halt.name}); close the window to exit"
  | listing path size start =>
    s!"Disassembling {path} ({size} bytes) from {Hex.marked 3 start}"
  | runStopped result => result.text

/-- A record with its level in front. -/
def leveled (r : LogRecord) : String := r.level.name ++ ": " ++ r.message

/-- What a cycle notes about the word it fetched. -/
def ofWord (address : Address) (word : Word) : LogRecord :=
  if word.isKnown then .executing address word
  else if word = 0 then .endMarker address
  else .unknownWord address word

end LogRecord

/-- What the next cycle of a machine notes. -/
def Machine.cycleLog (m : Machine) : List LogRecord :=
  match m.fetch with
  | .ok word => [.ofWord m.pc word]
  | .error _ => []

/-- What an attempt to load a program notes; one that memory refuses notes nothing. -/
def Machine.loadLog (m : Machine) (data : List Byte) : List LogRecord :=
  match (Machine.load data m).answer with
  | .ok () => [.romLoaded data.length]
  | .error (.rom _) => [.romRejected data.length]
  | .error _ => []

end ChipEight
