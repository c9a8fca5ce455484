/-
Main memory.

Memory is a row of 4096 bytes with the font at its start.  Accesses name any integer as a
position: one that leaves the row is refused, and the refusal names the first position that is
outside.  A block is checked at its two ends only, and an empty block is never refused.

The view of a memory is `byteAt`; `store` is described by what it does to that view.
-/
import ChipEight.Font
import ChipEight.Text.Hex
import ChipEight.Transition

namespace ChipEight

/-- The bytes of main memory. -/
structure Memory where
  /-- The bytes in order. -/
  bytes : Vector Byte 4096
  deriving DecidableEq

/-- A refused access: the position that memory does not have. -/
structure OutOfRange where
  /-- The first position outside memory. -/
  target : Int
  deriving DecidableEq, Repr

namespace Memory

/-- The number of bytes of memory. -/
def size : Nat := 4096

/-- Where programs are loaded. -/
def programStart : Nat := 0x200

/-- The greatest size of a program. -/
def programLimit : Nat := size - programStart

/-- The byte at a position; zero beyond the end. -/
def byteAt (m : Memory) (a : Nat) : Byte := m.bytes[a]?.getD 0

/-- The memory with one byte replaced; nothing happens beyond the end. -/
def setByte (m : Memory) (a : Nat) (b : Byte) : Memory := ⟨m.bytes.setIfInBounds a b⟩

/-- The memory with consecutive bytes replaced from a position on. -/
def store (m : Memory) (a : Nat) : List Byte → Memory
  | [] => m
  | b :: rest => (m.setByte a b).store (a + 1) rest

/-- The `count` bytes from a position on. -/
def slice (m : Memory) (a count : Nat) : List Byte :=
  (List.range count).map fun k => m.byteAt (a + k)

@[simp] theorem byteAt_setByte (m : Memory) (a : Nat) (b : Byte) (k : Nat) :
    (m.setByte a b).byteAt k = if a = k ∧ k < size then b else m.byteAt k := by
  simp only [byteAt, setByte, size, Vector.getElem?_setIfInBounds]
  by_cases h : a = k
  · subst h
    by_cases hk : a < 4096 <;> simp [hk]
  · simp [h]

theorem byteAt_store (m : Memory) (a : Nat) (bytes : List Byte) (k : Nat) :
    (m.store a bytes).byteAt k =
      if a ≤ k ∧ k < size then (bytes[k - a]?).getD (m.byteAt k) else m.byteAt k := by
  induction bytes generalizing m a with
  | nil => simp [store]
  | cons b rest ih =>
    rw [store, ih, byteAt_setByte]
    by_cases hk : k < size
    · by_cases h1 : a = k
      · subst h1
        have : ¬ a + 1 ≤ a := by omega
        simp [hk, this]
      · by_cases h2 : a + 1 ≤ k
        · have : k - a = (k - (a + 1)) + 1 := by omega
          have h3 : a ≤ k := by omega
          simp [h1, h2, h3, hk, this]
        · have h3 : ¬ a ≤ k := by omega
          simp [h1, h2, h3]
    · simp [hk]

/-- Memory as it is after switching on: the font, then zeros. -/
def powerOn : Memory := store ⟨Vector.replicate 4096 0⟩ 0 Font.glyphs

/-- Accepts the `count` positions from `address` on if the first and the last are in memory. -/
def check (address count : Int) : Except OutOfRange Unit :=
  if address < 0 ∨ size ≤ address then .error ⟨address⟩
  else if size ≤ address + count - 1 then .error ⟨address + count - 1⟩
  else .ok ()

/-- The byte at an address. -/
def read (m : Memory) (address : Int) : Except OutOfRange Byte :=
  (check address 1).map fun _ => m.byteAt address.toNat

/-- The word at an address, high byte first. -/
def readWord (m : Memory) (address : Int) : Except OutOfRange Word :=
  (check address 2).map fun _ =>
    Word.ofBytes (m.byteAt address.toNat) (m.byteAt (address.toNat + 1))

/-- The `count` bytes at an address; none if `count` is not positive. -/
def readBlock (m : Memory) (address count : Int) : Except OutOfRange (List Byte) :=
  if count ≤ 0 then .ok []
  else (check address count).map fun _ => m.slice address.toNat count.toNat

/-- A request that changes memory. -/
abbrev Request := EStateM OutOfRange Memory Unit

/-- The low eight bits of an integer, which is what memory keeps of it. -/
def lowByte (value : Int) : Byte := BitVec.ofInt 8 value

/-- Writes the low byte of an integer at an address. -/
def write (address value : Int) : Request := do
  MonadExcept.ofExcept (check address 1)
  modify fun m => m.setByte address.toNat (lowByte value)

/-- Writes a block of bytes at an address. -/
def writeBlock (address : Int) (values : List Byte) : Request :=
  if values.isEmpty then pure ()
  else do
    MonadExcept.ofExcept (check address values.length)
    modify fun m => m.store address.toNat values

/-- Writes the low bytes of some integers at an address. -/
def writeValues (address : Int) (values : List Int) : Request :=
  writeBlock address (values.map lowByte)

/-- Copies some data to an address. -/
def load (address : Int) (data : List Byte) : Request := writeBlock address data

/-- Sets every byte to zero and puts the font back. -/
def clear (m : Memory) : Memory :=
  let m := { m with bytes := Vector.replicate 4096 0 }
  m.store 0 Font.glyphs

/-- The `count` bytes at an address in hexadecimal, separated by spaces. -/
def dump (m : Memory) (address count : Int) : Except OutOfRange String :=
  (m.readBlock address count).map fun bytes => " ".intercalate (bytes.map Hex.lowerByte)

end Memory
end ChipEight
