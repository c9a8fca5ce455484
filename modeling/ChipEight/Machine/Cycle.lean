/-
The instruction cycle.

A cycle fetches the word at the program counter and executes it.  A word without an instruction is
no error: the cycle is reported, and only the record of the last word changes.

While a cycle is under way, `Effect` is what it has done so far.  Registers are written one by one,
memory and the stack are asked for accesses that they may refuse, and whoever refuses stops the
cycle at that point, with everything that was written before.  A refusal of memory does not say
where it arose; the cycle adds that on its way out.  The stack knows which instruction is being
executed, so it says so itself.

An instruction either decides itself where execution continues, or leaves that to the cycle,
which then goes on to the next word, two bytes further; addresses wrap around at the end of
memory.  The table of operations says which instructions are of the first kind.  An arithmetic
instruction writes its flag after its result, so that a result in the flag register is
overwritten by the flag.
-/
import ChipEight.Instruction.Operation
import ChipEight.Machine.Edit
import ChipEight.Random.ByteSource

namespace ChipEight

/-- What one cycle did. -/
structure Cycle where
  /-- The address of the word. -/
  address : Address
  /-- The word. -/
  word : Word
  /-- Whether the word encodes an instruction. -/
  isImplemented : Bool := true
  /-- Whether the instruction is still waiting for a key. -/
  waiting : Bool := false
  /-- Whether the instruction has drawn on the display or cleared it. -/
  drew : Bool := false
  deriving DecidableEq, Repr

namespace Cycle

/-- Whether the word marks the end of the program. -/
def isEndOfProgram (c : Cycle) : Bool := c.word = 0

/-- The cycle in one line: address, word and assembly. -/
def text (c : Cycle) : String :=
  s!"{Hex.marked 3 c.address.toNat}: {Hex.field 4 c.word.toNat}  {c.word.assembly}"

end Cycle

namespace Machine

/-- What a cycle has done so far. -/
structure Effect where
  /-- The machine now. -/
  machine : Machine
  /-- The source of random bytes now. -/
  source : ByteSource
  /-- Whether the instruction has turned out to wait for a key. -/
  waiting : Bool := false
  /-- Whether the instruction has drawn on the display or cleared it. -/
  drew : Bool := false

/-- Nothing has been done so far. -/
def Effect.start (source : ByteSource) (m : Machine) : Effect := { machine := m, source := source }

/-- The report of a cycle that has executed the instruction of a word. -/
def Effect.report (effect : Effect) (address : Address) (word : Word) : Cycle :=
  { address, word, waiting := effect.waiting, drew := effect.drew }

/-- A part of a cycle. -/
abbrev Execution := EStateM Fault Effect

namespace Execution

/-- Changes the machine. -/
def update (change : Machine → Machine) : Execution Unit :=
  modify fun effect => { effect with machine := change effect.machine }

/-- A request to the machine as a part of a cycle. -/
def onMachine {α : Type} (request : Machine.Request α) : Execution α :=
  onPart Effect.machine (fun effect machine => { effect with machine := machine }) id request

/-- Stores a number in a register; a number that is no byte is refused. -/
def store (x : Register) (value : Int) : Execution Unit := do
  match (← get).machine.setRegister x.toNat value with
  | .ok machine => update fun _ => machine
  | .error e => throw (.bare (.register e))

/-- Stores the result of a shift in `x` and, under the rule for shifts, in `y`. -/
def storeShift (rules : Rules) (x y : Register) (value : Int) : Execution Unit := do
  store x value
  if rules.shiftsBoth then store y value

/-- Goes on to the next word, or to the one after it if `skip` holds. -/
def skipWhen (skip : Bool) : Execution Unit :=
  update fun m => m.setPc (m.pc.toNat + if skip then 4 else 2)

/-- Takes a random byte from the source. -/
def randomByte : Execution Byte :=
  modifyGet fun effect =>
    let (byte, source) := effect.source.next
    (byte, { effect with source := source })

/-- The bytes of memory from the index register on. -/
def readBlock (count : Int) : Execution (List Byte) := do
  let m := (← get).machine
  MonadExcept.ofExcept
    ((m.memory.readBlock m.i.toNat count).mapError fun e => .bare (.memoryAccess e.target))

/-- Draws a sprite, and says whether a pixel was turned off. -/
def drawSprite (column row : Nat) (sprite : List Byte) : Execution Bool :=
  modifyGet fun effect =>
    let (collision, display) := effect.machine.display.draw column row sprite
    (collision, { effect with machine := { effect.machine with display := display } })

/-- Notes that the display has changed. -/
def noteDrawn : Execution Unit := modify fun effect => { effect with drew := true }

/-- Notes that the instruction waits for a key. -/
def noteWaiting : Execution Unit := modify fun effect => { effect with waiting := true }

end Execution

open Execution

/-- The word at the program counter. -/
def fetch (m : Machine) : Except Fault Word :=
  (m.memory.readWord m.pc.toNat).mapError fun e =>
    ⟨.memoryAccess e.target, some m.pc.toNat, none⟩

/-- The machine with a word noted as the last one fetched. -/
def latch (m : Machine) (word : Word) : Machine := { m with lastWord := word }

/-- A flag as a number. -/
def flagValue (b : Bool) : Int := if b then 1 else 0

/-- What an instruction does itself.  The program counter stands at its word and stays there,
unless the instruction decides where execution continues. -/
def perform (rules : Rules) (ins : Instruction) : Execution Unit := do
  let m := (← get).machine
  let v (x : Register) : Nat := (m.v.read x).toNat
  match ins with
  | .clearScreen => do
    update fun m => { m with display := m.display.clear }
    noteDrawn
  | .ret => do
    let address ← onMachine popReturn
    update (·.setPc address.toNat)
  | .jump nnn => update (·.setPc nnn.toNat)
  | .call nnn => do
    onMachine (pushReturn rules (m.pc.toNat + 2))
    update (·.setPc nnn.toNat)
  | .jumpFrom nnn => update (·.setPc (v 0 + nnn.toNat))
  | .skipIfByte x nn => skipWhen (v x == nn.toNat)
  | .skipUnlessByte x nn => skipWhen (v x != nn.toNat)
  | .skipIfSame x y => skipWhen (v x == v y)
  | .skipUnlessSame x y => skipWhen (v x != v y)
  | .skipIfKey x => skipWhen (m.keypad.isPressed (Keypad.lowKey (v x)))
  | .skipUnlessKey x => skipWhen (!m.keypad.isPressed (Keypad.lowKey (v x)))
  | .loadByte x nn => store x nn.toNat
  | .addByte x nn => store x ((v x + nn.toNat) % 256)
  | .copy x y => store x (v y)
  | .bitOr x y => store x (v x ||| v y : Nat)
  | .bitAnd x y => store x (v x &&& v y : Nat)
  | .bitXor x y => store x (v x ^^^ v y : Nat)
  | .add x y => do
    let total := v x + v y
    store x (total % 256)
    store Registers.flag (flagValue (255 < total))
  | .sub x y => do
    let flag := flagValue (v y < v x)
    store x ((v x - v y) % 256)
    store Registers.flag flag
  | .subFrom x y => do
    let flag := flagValue (v x < v y)
    store x ((v y - v x) % 256)
    store Registers.flag flag
  | .shiftRight x y => do
    let before := v x
    storeShift rules x y (before >>> 1 : Nat)
    store Registers.flag (before &&& 1 : Nat)
  | .shiftLeft x y => do
    let before := v x
    storeShift rules x y (before <<< 1 &&& 0xFF : Nat)
    store Registers.flag (before >>> 7 &&& 1 : Nat)
  | .loadIndex nnn => update (·.setIndex nnn.toNat)
  | .random x nn => do
    let byte ← randomByte
    store x (byte.toNat &&& nn.toNat : Nat)
  | .draw x y n => do
    let sprite ← readBlock n.toNat
    let collision ← drawSprite (v x) (v y) sprite
    store Registers.flag (flagValue collision)
    noteDrawn
  | .readDelay x => store x m.delay.toNat
  | .setDelay x => update (·.setDelay (v x))
  | .setSound x => update (·.setSound (v x))
  | .awaitKey x =>
    match m.keypad.firstPressed with
    | none => noteWaiting
    | some key => do
      store x key.toNat
      update (·.setPc (m.pc.toNat + 2))
  | .addIndex x => update fun m => m.setIndex (m.i.toNat + v x)
  | .pointAtGlyph x => update (·.setIndex (Font.glyphAddress (Font.lowDigit (v x))).toNat)
  | .storeDecimal x => do
    let value : Int := v x
    onMachine (onMemory
      (Memory.writeValues m.i.toNat [value / 100, value / 10 % 10, value % 100 % 10]))
  | .storeRegisters x => do
    onMachine (onMemory (Memory.writeBlock m.i.toNat (m.v.upTo x)))
    update fun m => m.setIndex (m.i.toNat + x.toNat + 1)
  | .loadRegisters x => do
    let bytes ← readBlock (x.toNat + 1 : Nat)
    update fun m => { m with v := m.v.fill 0 bytes }
    update fun m => m.setIndex (m.i.toNat + x.toNat + 1)

/-- Executes an instruction whose word lies at the program counter, and goes on to the next word
unless the instruction decides itself where execution continues. -/
def execute (rules : Rules) (ins : Instruction) : Execution Unit := do
  let address := (← get).machine.pc
  perform rules ins
  unless ins.operation.isControlFlow do update (·.setPc (address.toNat + 2))

/-- Fetches the word at the program counter and notes it. -/
def fetchNext : Execution Word := do
  let word ← MonadExcept.ofExcept (← get).machine.fetch
  update (·.latch word)
  return word

/-- The instruction of a word; there should be one. -/
def instructionOf (word : Word) : Execution Instruction :=
  match Instruction.decode word with
  | some ins => pure ins
  | none => throw (.bare (.unhandled word.operation.name))

/-- Executes the instruction at the program counter, and reports what it did. -/
def cycle (rules : Rules) : Execution Cycle := do
  let address := (← get).machine.pc
  let word ← fetchNext
  if word.isKnown then do
    tryCatch (do execute rules (← instructionOf word))
      fun fault => throw (fault.blamedOn address.toNat word.toNat)
    return (← get).report address word
  else return { address, word, isImplemented := false }

/-- The outcome of a cycle: what it did or the fault that ended it, and the machine and the
source afterwards. -/
structure StepOutcome where
  /-- What the cycle did, or why it failed. -/
  result : Except Fault Cycle
  /-- The machine afterwards. -/
  machine : Machine
  /-- The source of random bytes afterwards. -/
  source : ByteSource

/-- Executes the instruction at the program counter. -/
def step (rules : Rules) (source : ByteSource) (m : Machine) : StepOutcome :=
  let outcome := cycle rules (.start source m)
  ⟨outcome.answer, outcome.state.machine, outcome.state.source⟩

end Machine
end ChipEight
