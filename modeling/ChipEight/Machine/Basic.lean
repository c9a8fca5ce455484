/-
The machine: everything a running program can read or change.

Sixteen registers of one byte, of which the last also receives flags; a program counter and
an index register of twelve bits; two timers; a call stack; memory, display and keypad; and
the word that was fetched last.  All of these are of fixed width, so a stored number is
always reduced to its width.  How deep the stack may grow is a rule of the host and not part
of the machine.
-/
import ChipEight.Memory
import ChipEight.Display.Basic
import ChipEight.Keypad.Basic
import ChipEight.Fault

namespace ChipEight

/-- The sixteen registers. -/
abbrev Registers := Vector Byte 16

namespace Registers

/-- The contents of a register. -/
def read (v : Registers) (r : Register) : Byte :=
  have : r.toNat < 16 := r.isLt
  v[r.toNat]

/-- The registers with one replaced. -/
def write (v : Registers) (r : Register) (b : Byte) : Registers := v.set r.toNat b r.isLt

/-- The register that receives flags. -/
def flag : Register := 0xF#4

/-- The registers `V0` to `Vx`. -/
def upTo (v : Registers) (x : Register) : List Byte := v.toList.take (x.toNat + 1)

/-- The registers with consecutive ones replaced, from the given one on. -/
def fill (v : Registers) (first : Nat) : List Byte → Registers
  | [] => v
  | b :: rest => fill (v.setIfInBounds first b) (first + 1) rest

@[simp] theorem read_write (v : Registers) (r s : Register) (b : Byte) :
    (v.write r b).read s = if r = s then b else v.read s := by
  simp only [read, write, Vector.getElem_set, BitVec.toNat_inj]

end Registers

/-- What the host decides about the execution of instructions. -/
structure Rules where
  /-- Whether a shift stores its result in the second register too. -/
  shiftsBoth : Bool
  /-- How many return addresses the stack may hold. -/
  stackDepth : Nat
  deriving DecidableEq, Repr

/-- The state of a machine. -/
structure Machine where
  /-- The registers. -/
  v : Registers
  /-- The address of the next instruction. -/
  pc : Address
  /-- The index register. -/
  i : Address
  /-- The delay timer. -/
  delay : Byte
  /-- The sound timer. -/
  sound : Byte
  /-- The return addresses, the latest first. -/
  stack : List Address
  /-- Main memory. -/
  memory : Memory
  /-- The display. -/
  display : Display
  /-- The keypad. -/
  keypad : Keypad
  /-- The word that was fetched last. -/
  lastWord : Word
  deriving DecidableEq

namespace Machine

/-- The machine after switching on. -/
def powerOn : Machine where
  v := Vector.replicate 16 0
  pc := BitVec.ofNat 12 Memory.programStart
  i := 0
  delay := 0
  sound := 0
  stack := []
  memory := Memory.powerOn
  display := Display.powerOn
  keypad := Keypad.released
  lastWord := 0

/-- The machine with a number in the program counter, which keeps its low bits. -/
def setPc (m : Machine) (value : Int) : Machine := { m with pc := BitVec.ofInt 12 value }

/-- The machine with a number in the index register, which keeps its low bits. -/
def setIndex (m : Machine) (value : Int) : Machine := { m with i := BitVec.ofInt 12 value }

/-- The machine with a number in the delay timer, which keeps its low bits. -/
def setDelay (m : Machine) (value : Int) : Machine := { m with delay := BitVec.ofInt 8 value }

/-- The machine with a number in the sound timer, which keeps its low bits. -/
def setSound (m : Machine) (value : Int) : Machine := { m with sound := BitVec.ofInt 8 value }

/-- A cause, blamed on the instruction that is being executed. -/
def currentFault (m : Machine) (cause : Cause) : Fault :=
  ⟨cause, some m.pc.toNat, some m.lastWord.toNat⟩

/-- A request that reads or changes a machine. -/
abbrev Request (α : Type) := EStateM Fault Machine α

/-- A request to memory as a request to the machine; a refusal does not say where it arose. -/
def onMemory {α : Type} (request : EStateM OutOfRange Memory α) : Request α :=
  onPart Machine.memory (fun m memory => { m with memory := memory })
    (fun e => .bare (.memoryAccess e.target)) request

/-- Puts the low bits of an integer on the stack as a return address. -/
def pushReturn (rules : Rules) (address : Int) : Request Unit := do
  let m ← get
  if rules.stackDepth ≤ m.stack.length then throw (m.currentFault (.stackOverflow m.stack.length))
  else set { m with stack := BitVec.ofInt 12 address :: m.stack }

/-- Takes the latest return address from the stack. -/
def popReturn : Request Address := do
  let m ← get
  match m.stack with
  | [] => throw (m.currentFault .stackUnderflow)
  | address :: rest =>
    set { m with stack := rest }
    return address

/-- The machine switched off and on, part by part. -/
def reset (m : Machine) : Machine :=
  let m := { m with memory := m.memory.clear }
  let m := { m with display := m.display.clear }
  let m := { m with keypad := m.keypad.clear }
  let m := { m with v := Vector.replicate 16 0 }
  let m := { m with stack := [] }
  let m := { m with lastWord := 0 }
  let m := { m with pc := BitVec.ofNat 12 Memory.programStart }
  let m := { m with i := 0 }
  let m := { m with delay := 0 }
  { m with sound := 0 }

/-- Loads a program, which switches the machine off and on first; a program that is too large is
refused before. -/
def load (data : List Byte) : EStateM Failure Machine Unit := do
  if Memory.programLimit < data.length then
    throw (.rom (.tooLarge data.length Memory.programLimit))
  modify reset
  (onMemory (Memory.load Memory.programStart data)).adaptExcept .fault

/-- Counts both timers down by one tick; a timer at zero stays there. -/
def tick (m : Machine) : Machine :=
  { m with
    delay := if m.delay = 0 then 0 else m.delay - 1
    sound := if m.sound = 0 then 0 else m.sound - 1 }

/-- The contents of the registers by name; `SP` is the number of return addresses. -/
def registerTable (m : Machine) : List (String × Nat) :=
  (List.range 16).map (fun n : Nat =>
      ("V" ++ Hex.field 1 n, (m.v.read (BitVec.ofNat 4 n)).toNat)) ++
    [("PC", m.pc.toNat), ("I", m.i.toNat), ("DT", m.delay.toNat), ("ST", m.sound.toNat),
      ("SP", m.stack.length)]

end Machine
end ChipEight
