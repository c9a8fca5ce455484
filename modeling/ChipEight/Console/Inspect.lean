/-
Looking into a console.

None of these requests changes anything.
-/
import ChipEight.Console.Basic
import ChipEight.Display.View
import ChipEight.Listing
import ChipEight.Machine.Edit

namespace ChipEight.Console

/-- How many registers a request for a range of them looks at.  No more than 32 consecutive
numbers name registers, so with one more a refusal is certain. -/
def longestRange : Nat := 33

/-- The registers from `first` to `last` in one line, and the program counter and the index
register in another. -/
def formatRegisters (c : Console) (first last : Int) : Except Machine.RegisterError String := do
  let count := min (last + 1 - first).toNat longestRange
  let shown ← (List.range count).mapM fun k : Nat => do
    let index := first + k
    let b ← c.machine.readRegister index
    return s!"V{Hex.field 1 index}:{Hex.field 2 b.toNat}"
  return " ".intercalate shown ++
    s!"\nPC:{Hex.marked 4 c.machine.pc.toNat} I:{Hex.marked 4 c.machine.i.toNat}"

/-- Some bytes of memory in hexadecimal. -/
def formatMemory (c : Console) (size start : Int) : Except OutOfRange String :=
  c.machine.memory.dump start size

/-- The listing of up to `count` words from an address on, cut at the end of memory. -/
def listAt (c : Console) (address count : Int) : Except OutOfRange (List Listing.Line) :=
  let available := max 0 (min (count * 2) (Memory.size - address))
  (c.machine.memory.readBlock address available).map fun data =>
    Listing.disassemble data address none

/-- The printed lines of such a listing, with their addresses. -/
def disassembleAt (c : Console) (address count : Int) : Except OutOfRange (List String) :=
  (c.listAt address count).map fun lines => lines.map (·.format true)

/-- The display as text. -/
def displayText (c : Console) : String :=
  c.machine.display.text Display.litMark Display.darkMark

/-- The console in one line. -/
def summary (c : Console) : String :=
  s!"Emulator(pc={Hex.marked 3 c.machine.pc.toNat}, rom_size={c.romSize}, cycles={c.cycles})"

end ChipEight.Console
