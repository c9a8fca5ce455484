/-
Switching a machine off and on, and loading a program.

A reset writes every part of the machine, one after the other, and it has to forget none: what comes
out is the machine that has just been switched on, whatever the machine was before.  Loading looks
at the size of the program first.  So a program that is too large is refused before anything is
written, and any other one is put into a machine that has just been switched on, where it fits.
-/
import ChipEight.Proofs.Memory

namespace ChipEight.Machine

/-- A machine that was switched on and had a program loaded. -/
def withProgram (data : List Byte) : Machine :=
  { powerOn with memory := Memory.powerOn.store Memory.programStart data }

theorem withProgram_nil : withProgram [] = powerOn := by
  rw [withProgram, Memory.store]
  rfl

/-- **A reset forgets no part of the machine.** -/
theorem reset_eq_powerOn (m : Machine) : m.reset = powerOn := by
  simp only [reset, Memory.clear_eq_powerOn]
  rfl

/-- The program is refused before the machine is switched off. -/
theorem load_of_large {data : List Byte} (h : Memory.programLimit < data.length) (m : Machine) :
    load data m = .error (.rom (.tooLarge data.length Memory.programLimit)) m := by
  rw [load, if_pos h]
  rfl

/-- A program of any other size fits into memory. -/
theorem memoryLoad_of_fits {data : List Byte} (h : data.length ≤ Memory.programLimit)
    (memory : Memory) :
    Memory.load Memory.programStart data memory =
      .ok () (memory.store Memory.programStart data) := by
  refine (memory.writeBlock_address 0x200 data).trans (if_neg ?_)
  rintro ⟨-, hlarge⟩
  rw [Memory.programLimit] at h
  exact absurd (Nat.sub_lt_left_of_lt_add (by decide) hlarge) (Nat.not_lt.mpr h)

/-- So whoever loads it finds it in a machine that was switched off and on. -/
theorem load_of_fits {data : List Byte} (h : data.length ≤ Memory.programLimit) (m : Machine) :
    load data m = .ok () (withProgram data) := by
  have hcopy : (onMemory (Memory.load Memory.programStart data)).adaptExcept Failure.fault
      m.reset = .ok () (withProgram data) := by
    rw [EStateM.adaptExcept, onMemory, onPart, memoryLoad_of_fits h]
    rfl
  rw [load, if_neg (Nat.not_lt.mpr h)]
  exact hcopy

end ChipEight.Machine
