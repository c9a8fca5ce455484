/-
Numbers in registers.

Hosts and instructions put integers into registers.  A number is reduced to the width of the place
it is stored in, except that a general register takes a byte only; the number of a general
register may count from the end.
-/
import ChipEight.Machine.Basic

namespace ChipEight.Machine

/-- A part of the machine that takes any integer and keeps its low bits. -/
inductive Part where
  | pc
  | index
  | delay
  | sound
  | flag
  deriving DecidableEq, Repr

/-- The machine with a part replaced by the low bits of an integer. -/
def assign (m : Machine) (part : Part) (value : Int) : Machine :=
  match part with
  | .pc => m.setPc value
  | .index => m.setIndex value
  | .delay => m.setDelay value
  | .sound => m.setSound value
  | .flag => { m with v := m.v.write Registers.flag (BitVec.ofInt 8 value) }

/-- The machine with a register set.  The value is checked before the register is looked for,
but after the number of the register was found to be a position at all. -/
def setRegister (m : Machine) (index value : Int) : Except RegisterError Machine :=
  if !isPosition index then .error (.noSuchRegister index)
  else if value < 0 ∨ 256 ≤ value then .error (.notAByte value)
  else
    match position? 16 index with
    | none => .error (.noSuchRegister index)
    | some p => .ok { m with v := m.v.write (.ofFin p) (BitVec.ofInt 8 value) }

/-- The contents of a register. -/
def readRegister (m : Machine) (index : Int) : Except RegisterError Byte :=
  match position? 16 index with
  | none => .error (.noSuchRegister index)
  | some p => .ok (m.v.read (.ofFin p))

end ChipEight.Machine
