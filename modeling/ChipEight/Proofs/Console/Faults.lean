/-
When a cycle faults.

A cycle faults in one of seven situations, and `Faults` has a rule for each: it reads the
program counter, the word that stands there and the part of the machine that the instruction
needs, and it gives the whole fault with its cause, its address and its word.  The words are
written as patterns of nibbles, so that the rules do not depend on how words are decoded.

A cycle that faults is not taken.  The only trace of it is the record of the word that was
fetched, and there is none at the last position of memory, where no word can be fetched.  A cycle
is stopped where the fault arises and nothing is taken back, so this rests on every instruction
checking what it needs before it writes.
-/
import ChipEight.Proofs.Console.Step

namespace ChipEight

namespace Machine

/-- A cause, blamed on the word at the program counter. -/
def faultHere (m : Machine) (cause : Cause) : Fault :=
  ⟨cause, some m.pc.toNat, some m.nextWord.toNat⟩

/-- The faults of a cycle, each with the situation in which it arises. -/
inductive Faults (rules : Rules) (m : Machine) : Fault → Prop
  /-- The word would go beyond the end of memory. -/
  | pastEnd (hpc : m.pc.toNat = 0xFFF) :
      Faults rules m ⟨.memoryAccess 0x1000, some 0xFFF, none⟩
  /-- A return without a return address. -/
  | ret (hpc : m.pc.toNat ≠ 0xFFF) (hw : m.nextWord = 0x00EE) (hs : m.stack = []) :
      Faults rules m (m.faultHere .stackUnderflow)
  /-- A call with a full stack. -/
  | call (hpc : m.pc.toNat ≠ 0xFFF) (nnn : Address) (hw : m.nextWord = .withAddress 0x2 nnn)
      (hs : rules.stackDepth ≤ m.stack.length) :
      Faults rules m (m.faultHere (.stackOverflow m.stack.length))
  /-- A sprite that ends beyond the end of memory. -/
  | draw (hpc : m.pc.toNat ≠ 0xFFF) (x y : Register) (n : Nibble)
      (hw : m.nextWord = .ofNibbles 0xD x y n)
      (hi : 1 ≤ n.toNat ∧ Memory.size < m.i.toNat + n.toNat) :
      Faults rules m (m.faultHere (.memoryAccess (m.i.toNat + n.toNat - 1 : Nat)))
  /-- Three digits that end beyond the end of memory. -/
  | storeDecimal (hpc : m.pc.toNat ≠ 0xFFF) (x : Register)
      (hw : m.nextWord = .withByte 0xF x 0x33) (hi : Memory.size < m.i.toNat + 3) :
      Faults rules m (m.faultHere (.memoryAccess (m.i.toNat + 2 : Nat)))
  /-- Registers that are stored beyond the end of memory. -/
  | storeRegisters (hpc : m.pc.toNat ≠ 0xFFF) (x : Register)
      (hw : m.nextWord = .withByte 0xF x 0x55) (hi : Memory.size < m.i.toNat + x.toNat + 1) :
      Faults rules m (m.faultHere (.memoryAccess (m.i.toNat + x.toNat : Nat)))
  /-- Registers that are loaded from beyond the end of memory. -/
  | loadRegisters (hpc : m.pc.toNat ≠ 0xFFF) (x : Register)
      (hw : m.nextWord = .withByte 0xF x 0x65) (hi : Memory.size < m.i.toNat + x.toNat + 1) :
      Faults rules m (m.faultHere (.memoryAccess (m.i.toNat + x.toNat : Nat)))

variable {rules : Rules} {source : ByteSource} {m : Machine}

theorem faults_of_refused (hpc : m.pc.toNat ≠ 0xFFF) {ins : Instruction} {cause : Cause}
    (hd : Instruction.decode m.nextWord = some ins) (hr : Refused rules m ins cause) :
    Faults rules m (m.faultHere cause) := by
  have hw : m.nextWord = ins.encode := (Instruction.encode_of_decode hd).symm
  cases hr with
  | ret hs => exact .ret hpc hw hs
  | call nnn hs => exact .call hpc nnn hw hs
  | draw x y n hi => exact .draw hpc x y n hw hi
  | storeDecimal x hi => exact .storeDecimal hpc x hw hi
  | storeRegisters x hi => exact .storeRegisters hpc x hw hi
  | loadRegisters x hi => exact .loadRegisters hpc x hw hi

/-- The word of an instruction that is refused makes the cycle fault. -/
theorem step_of_refused (hpc : m.pc.toNat ≠ 0xFFF) {ins : Instruction} {cause : Cause}
    (hr : Refused rules m ins cause) (hw : m.nextWord = ins.encode) :
    (m.step rules source).result = .error (m.faultHere cause) := by
  have hd : Instruction.decode m.nextWord = some ins :=
    Instruction.decode_eq_some_iff.mpr hw.symm
  rw [step_refused hpc hd hr]
  rfl

theorem step_of_faults {fault : Fault} (h : Faults rules m fault) :
    (m.step rules source).result = .error fault := by
  cases h with
  | pastEnd hpc => rw [step_pastEnd hpc]; rfl
  | ret hpc hw hs => exact step_of_refused hpc (.ret hs) hw
  | call hpc nnn hw hs => exact step_of_refused hpc (.call nnn hs) hw
  | draw hpc x y n hw hi => exact step_of_refused hpc (.draw x y n hi) hw
  | storeDecimal hpc x hw hi => exact step_of_refused hpc (.storeDecimal x hi) hw
  | storeRegisters hpc x hw hi => exact step_of_refused hpc (.storeRegisters x hi) hw
  | loadRegisters hpc x hw hi => exact step_of_refused hpc (.loadRegisters x hi) hw

/-- A cycle ends with a fault exactly if a rule gives that fault. -/
theorem step_eq_error_iff {fault : Fault} :
    (m.step rules source).result = .error fault ↔ Faults rules m fault := by
  refine ⟨fun h => ?_, step_of_faults⟩
  have hout := outcomes_step rules source m
  generalize m.step rules source = o at h hout
  cases hout with
  | pastEnd hpc =>
      obtain rfl := Except.error.inj h
      exact .pastEnd hpc
  | unknown hpc hd => cases h
  | refused hpc hd hr =>
      obtain rfl := Except.error.inj h
      exact faults_of_refused hpc hd hr
  | executed hpc hd he => cases h

/-- A machine only faults for what its program does. -/
theorem Faults.isOfProgram {fault : Fault} (h : Faults rules m fault) :
    fault.cause.isOfProgram = true := by
  cases h <;> rfl

end Machine

namespace Console

/-- The console with the word at the program counter noted, if there is one. -/
def noteWord (c : Console) : Console :=
  if c.machine.pc.toNat = 0xFFF then c
  else { c with machine := c.machine.latch c.machine.nextWord }

/-- A cycle that faults leaves the console as it was, but for the note of its word. -/
theorem console_of_fault {c : Console} {fault : Fault} (h : c.step.result = .error fault) :
    c.step.console = c.noteWord := by
  have hout := Machine.outcomes_step c.rules c.source c.machine
  rw [step_result] at h
  generalize ho : c.machine.step c.rules c.source = o at h hout
  cases hout with
  | pastEnd hpc => rw [step_of_error ho, noteWord, if_pos hpc]
  | unknown hpc hd => cases h
  | refused hpc hd hr => rw [step_of_error ho, noteWord, if_neg hpc]
  | executed hpc hd he => cases h

/-- A cycle only faults for what the program does. -/
theorem isOfProgram_of_step {c : Console} {fault : Fault} (h : c.step.result = .error fault) :
    fault.cause.isOfProgram = true := by
  rw [step_result] at h
  exact (Machine.step_eq_error_iff.mp h).isOfProgram

/-- **A cycle faults exactly when it should, and a fault leaves everything as it was.**  The
faults are those of the seven rules, each with its cause, its address and its word, and where
none of them applies the cycle succeeds.  After a fault the whole console is the same, except
that a word that could be fetched is noted as the last one.

Nothing is undone for that.  A fault keeps whatever was written before it was raised, and each
instruction, on whatever machine, raises its fault before the first write. -/
theorem step_fault_iff (c : Console) :
    (∀ fault, c.step.result = .error fault ↔ c.machine.Faults c.rules fault) ∧
      ((∃ cycle, c.step.result = .ok cycle) ↔ ¬∃ fault, c.machine.Faults c.rules fault) ∧
      (∀ fault, c.step.result = .error fault → c.step.console = c.noteWord) ∧
      ∀ m ins fault effect,
        Machine.perform c.rules ins (.start c.source m) = .error fault effect →
          effect = .start c.source m := by
  have hiff : ∀ fault, c.step.result = .error fault ↔ c.machine.Faults c.rules fault := by
    intro fault
    rw [step_result]
    exact Machine.step_eq_error_iff
  refine ⟨hiff, ?_, fun _ h => console_of_fault h,
    fun _ _ _ _ h => Machine.effect_of_perform_error h⟩
  cases h : c.step.result with
  | error fault =>
      have hf : c.machine.Faults c.rules fault := (hiff fault).mp h
      exact ⟨(fun hok => nomatch hok), fun hno => absurd ⟨fault, hf⟩ hno⟩
  | ok cycle =>
      refine ⟨fun _ => ?_, fun _ => ⟨cycle, rfl⟩⟩
      rintro ⟨fault, hf⟩
      have hfault : c.step.result = .error fault := (hiff fault).mpr hf
      rw [h] at hfault
      cases hfault

end Console
end ChipEight
