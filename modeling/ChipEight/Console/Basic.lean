/-
The console: a machine with everything that runs it.

A console holds the settings, the machine, the source of random bytes, and an account of the
program: whether it has halted, how many cycles it has taken, and how large it is.  Every
request answers with a `Reply`: the result or the error, the console afterwards, and what
was noted in the log.  Loading a program or resetting starts the account afresh and switches
the machine off and on; only the source of random bytes goes on from where it was.
-/
import ChipEight.Files
import ChipEight.LogRecord
import ChipEight.Settings

namespace ChipEight

/-- A machine and everything that runs it. -/
structure Console where
  /-- The settings. -/
  settings : Settings
  /-- The machine. -/
  machine : Machine
  /-- The source of random bytes. -/
  source : ByteSource
  /-- Why the program halted, if it has. -/
  halted : Option Halt
  /-- How many cycles the program has taken. -/
  cycles : Nat
  /-- How many bytes the program has. -/
  romSize : Nat
  deriving DecidableEq

/-- The answer to a request: the result or an error, the console afterwards, and the log. -/
structure Reply (ε α : Type) where
  /-- The result, or why there is none. -/
  result : Except ε α
  /-- The console afterwards. -/
  console : Console
  /-- What was noted, in order. -/
  log : List LogRecord

namespace Console

/-- A console without a program. -/
def new (settings : Settings) (source : ByteSource) : Console :=
  ⟨settings, Machine.powerOn, source, none, 0, 0⟩

/-- The rules under which the machine executes instructions. -/
def rules (c : Console) : Rules := ⟨c.settings.shiftsBoth, c.settings.stackDepth⟩

/-- The console with the machine switched off and on and no program. -/
def reset (c : Console) : Console :=
  let c := { c with machine := c.machine.reset }
  let c := { c with halted := none }
  let c := { c with cycles := 0 }
  { c with romSize := 0 }

/-- Loads a program.  The account starts afresh once the machine has the program. -/
def load (c : Console) (data : List Byte) : Reply Failure Unit :=
  let log := c.machine.loadLog data
  match Machine.load data c.machine with
  | .error e machine => ⟨.error e, { c with machine := machine }, log⟩
  | .ok () machine =>
    let c := { c with machine := machine }
    let c := { c with romSize := data.length }
    let c := { c with halted := none }
    ⟨.ok (), { c with cycles := 0 }, log⟩

/-- Loads a program from what stands at a path. -/
def loadFile (c : Console) (path : String) (entry : Files.Entry) : Reply Failure Unit :=
  match entry.contents with
  | .error e => ⟨.error (.rom (.unreadable (Files.normalize path) e.reason)), c, []⟩
  | .ok data =>
    let reply := c.load data
    { reply with log := .romOpened (Files.name path) :: reply.log }

/-- Counts the timers down by one tick. -/
def tick (c : Console) : Console := { c with machine := c.machine.tick }

/-- Executes one instruction; a cycle is counted if it succeeds. -/
def step (c : Console) : Reply Fault Cycle :=
  let log := c.machine.cycleLog
  let rules := c.rules
  match c with
  | ⟨settings, machine, source, halted, cycles, romSize⟩ =>
    match machine.step rules source with
    | ⟨.ok cycle, machine, source⟩ =>
      ⟨.ok cycle, ⟨settings, machine, source, halted, cycles + 1, romSize⟩, log⟩
    | ⟨.error fault, machine, source⟩ =>
      ⟨.error fault, ⟨settings, machine, source, halted, cycles, romSize⟩, log⟩

/-- The word at the program counter. -/
def peek (c : Console) : Except Fault Word := c.machine.fetch

/-- The console with its program marked as halted, and the note of it. -/
def halt (c : Console) (h : Halt) : Console × LogRecord :=
  ({ c with halted := some h }, .halted h c.machine.pc)

/-- The console after a key event. -/
def key (c : Console) (key : Keypad.Key) (down : Bool) : Except Keypad.Error Console :=
  (c.machine.keypad.change .standard key down).map fun keypad =>
    { c with machine := { c.machine with keypad := keypad } }

/-- The console with a key pressed. -/
def press (c : Console) (key : Keypad.Key) : Except Keypad.Error Console := c.key key true

/-- The console with a key released. -/
def release (c : Console) (key : Keypad.Key) : Except Keypad.Error Console := c.key key false

end Console
end ChipEight
