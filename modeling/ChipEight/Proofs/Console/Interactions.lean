/-
Requests, looks, and what is answered.

A `Request` may change a console, and it is answered with its result or its error.  A `Look`
only shows something of the console and is not meant to change it.  A host does both in any
order, and the `transcript` of what it did has every interaction with its answer.

A snapshot is a request here, because it takes note of what it has shown; but a host that takes
one wants to look at the display and nothing else.  So it counts as an observation, as the looks
do.
-/
import ChipEight.Console.Inspect
import ChipEight.Proofs.Console.Requests

namespace ChipEight

/-- What a host may look at. -/
inductive Look where
  /-- The display as text, with a mark for lit pixels and one for dark ones. -/
  | text (on off : String)
  /-- The display as a picture. -/
  | picture (scale : Int)
  /-- The contents of the registers by name. -/
  | registers
  /-- Some registers in one line, and two more in another. -/
  | registerText (first last : Int)
  /-- Some bytes of memory. -/
  | memoryText (size start : Int)
  /-- The word at the program counter. -/
  | nextWord
  /-- The listing of some words from an address on. -/
  | listing (address count : Int)
  /-- The console in one line. -/
  | summary
  deriving DecidableEq, Repr

/-- What a host does with a console. -/
inductive Interaction where
  /-- It asks for something. -/
  | request (r : Request)
  /-- It looks at something. -/
  | look (l : Look)
  deriving DecidableEq, Repr

/-- Whether an interaction only shows something. -/
def Interaction.isObservation : Interaction → Bool
  | request .snapshot | look _ => true
  | _ => false

/-- What comes back. -/
inductive Answer where
  /-- There is nothing to tell. -/
  | done
  /-- Whether a program was loaded. -/
  | loaded (r : Except Failure Unit)
  /-- What one cycle did. -/
  | cycle (r : Except Fault Cycle)
  /-- What the cycles of a frame did. -/
  | frame (r : Except Fault (List Cycle))
  /-- The report of a run. -/
  | run (r : Except Failure RunResult)
  /-- Whether a key was accepted. -/
  | key (r : Except Keypad.Error Unit)
  /-- The pixels of the display. -/
  | pixels (p : Pixels)
  /-- Something in words. -/
  | text (s : String)
  /-- A picture. -/
  | picture (r : Except Display.ViewError Display.Picture)
  /-- The contents of the registers by name. -/
  | registers (table : List (String × Nat))
  /-- Some registers in words. -/
  | registerText (r : Except Machine.RegisterError String)
  /-- Some bytes in hexadecimal. -/
  | memoryText (r : Except OutOfRange String)
  /-- A word. -/
  | word (r : Except Fault Word)
  /-- The lines of a listing. -/
  | listing (r : Except OutOfRange (List String))

namespace Console

/-- What a request is answered with. -/
def reply (c : Console) : Request → Answer
  | .load data => .loaded (c.load data).result
  | .loadFile path entry => .loaded (c.loadFile path entry).result
  | .reset | .tick => .done
  | .step => .cycle c.step.result
  | .run maxCycles strict => .run (c.run maxCycles strict).result
  | .runFrame => .frame c.runFrame.result
  | .press key => .key ((c.press key).map fun _ => ())
  | .release key => .key ((c.release key).map fun _ => ())
  | .snapshot => .pixels c.machine.display.snapshot.1

/-- What a look shows. -/
def sight (c : Console) : Look → Answer
  | .text on off => .text (c.machine.display.text on off)
  | .picture scale => .picture (c.machine.display.render scale)
  | .registers => .registers c.machine.registerTable
  | .registerText first last => .registerText (c.formatRegisters first last)
  | .memoryText size start => .memoryText (c.formatMemory size start)
  | .nextWord => .word c.peek
  | .listing address count => .listing (c.disassembleAt address count)
  | .summary => .text c.summary

/-- What an interaction is answered with. -/
def answer (c : Console) : Interaction → Answer
  | .request r => c.reply r
  | .look l => c.sight l

/-- The console after an interaction. -/
def meet (c : Console) : Interaction → Console
  | .request r => c.serve r
  | .look _ => c

/-- The console after a sequence of interactions. -/
def through (c : Console) (asked : List Interaction) : Console := asked.foldl meet c

/-- A sequence of interactions, each with its answer. -/
def transcript (c : Console) : List Interaction → List (Interaction × Answer)
  | [] => []
  | i :: rest => (i, c.answer i) :: (c.meet i).transcript rest

/-- What a sequence of requests is answered with. -/
def replies (c : Console) : List Request → List Answer
  | [] => []
  | r :: rest => c.reply r :: (c.serve r).replies rest

theorem through_cons (c : Console) (i : Interaction) (rest : List Interaction) :
    c.through (i :: rest) = (c.meet i).through rest := rfl

theorem reply_ofKey (c : Console) (key : Keypad.Key) (down : Bool) :
    c.reply (.ofKey key down) = .key ((c.key key down).map fun _ => ()) := by
  cases down <;> rfl

theorem key_eq_map (c : Console) (key : Keypad.Key) (down : Bool) :
    c.key key down = (c.machine.keypad.change .standard key down).map c.withKeypad := rfl

/-- Whether a program is accepted is settled by its size. -/
theorem load_result (c : Console) (data : List Byte) :
    (c.load data).result =
      if data.length ≤ Memory.programLimit then .ok ()
      else .error (.rom (.tooLarge data.length Memory.programLimit)) := by
  by_cases h : data.length ≤ Memory.programLimit
  · rw [load_of_le h, if_pos h]
  · rw [load_of_lt (Nat.not_le.mp h), if_neg h]

theorem loadFile_result (c : Console) (path : String) (entry : Files.Entry) :
    (c.loadFile path entry).result =
      match entry.contents with
      | .error e => .error (.rom (.unreadable (Files.normalize path) e.reason))
      | .ok data => (c.load data).result := by
  rw [loadFile]
  cases entry.contents <;> rfl

end Console
end ChipEight
