/-
One cycle of a console.

A console takes a cycle of its machine and counts it if it succeeded.  Nothing else in the
console is touched by that, so each outcome of the machine's cycle gives one equation for the
console.  Two of them matter on their own: a cycle that faults, and a cycle that meets a word
at which a program stops.

`Agree` compares two consoles that a program cannot tell apart: they may differ in the record
of the last word and in the count of cycles, which no instruction reads.
-/
import ChipEight.Proofs.Machine.Cycle
import ChipEight.Console.Run

namespace ChipEight

/-- The program counter stands at a word for which a program halts. -/
def Machine.StopsFor (m : Machine) : Halt → Prop
  | .endMarker => m.pc.toNat ≤ 0xFFE ∧ m.nextWord = 0
  | .unknownWord => m.pc.toNat ≤ 0xFFE ∧ m.nextWord ≠ 0 ∧ m.nextWord.operation = .unknown

namespace Machine.StopsFor

variable {m : Machine} {h : Halt}

theorem pc_ne (hm : m.StopsFor h) : m.pc.toNat ≠ 0xFFF := by
  cases h with
  | endMarker =>
      obtain ⟨hpc, -⟩ := hm
      omega
  | unknownWord =>
      obtain ⟨hpc, -⟩ := hm
      omega

theorem decode_eq_none (hm : m.StopsFor h) : Instruction.decode m.nextWord = none := by
  cases h with
  | endMarker => rw [hm.2, Word.decode_zero]
  | unknownWord => exact (Word.operation_eq_unknown_iff _).mp hm.2.2

/-- A word stops a program for one reason only. -/
theorem unique {h' : Halt} (hm : m.StopsFor h) (hm' : m.StopsFor h') : h = h' := by
  cases h <;> cases h'
  · rfl
  · exact absurd hm.2 hm'.2.1
  · exact absurd hm'.2 hm.2.1
  · rfl

/-- Only the program counter and memory decide whether a program stops. -/
theorem congr {m' : Machine} (hm : m.StopsFor h) (hpc : m'.pc = m.pc)
    (hmem : m'.memory = m.memory) : m'.StopsFor h := by
  have hword : m'.nextWord = m.nextWord := by rw [nextWord, nextWord, hpc, hmem]
  cases h with
  | endMarker =>
      show m'.pc.toNat ≤ 0xFFE ∧ m'.nextWord = 0
      rw [hpc, hword]
      exact hm
  | unknownWord =>
      show m'.pc.toNat ≤ 0xFFE ∧ m'.nextWord ≠ 0 ∧ m'.nextWord.operation = .unknown
      rw [hpc, hword]
      exact hm

end Machine.StopsFor

namespace Console

variable {c d e : Console}

/-! ### Consoles that a program cannot tell apart -/

/-- The second console differs from the first at most in the record of the last word and in the
count of cycles. -/
def Agree (c d : Console) : Prop :=
  ∃ word cycles, d = { c with machine := c.machine.latch word, cycles := cycles }

theorem Agree.refl (c : Console) : c.Agree c := ⟨c.machine.lastWord, c.cycles, rfl⟩

theorem Agree.of_eq (h : c = d) : c.Agree d := h ▸ Agree.refl c

theorem Agree.symm (h : c.Agree d) : d.Agree c := by
  obtain ⟨word, cycles, rfl⟩ := h
  exact ⟨c.machine.lastWord, c.cycles, rfl⟩

theorem Agree.trans (h₁ : c.Agree d) (h₂ : d.Agree e) : c.Agree e := by
  obtain ⟨word, cycles, rfl⟩ := h₁
  obtain ⟨word', cycles', rfl⟩ := h₂
  exact ⟨word', cycles', rfl⟩

theorem Agree.tick (h : c.Agree d) : c.tick.Agree d.tick := by
  obtain ⟨word, cycles, rfl⟩ := h
  exact ⟨word, cycles, rfl⟩

theorem Agree.halt (h : c.Agree d) (reason : Halt) :
    (c.halt reason).1.Agree (d.halt reason).1 := by
  obtain ⟨word, cycles, rfl⟩ := h
  exact ⟨word, cycles, rfl⟩

/-! ### The cycle of a console -/

theorem step_of_ok {cycle : Cycle} {m : Machine} {source : ByteSource}
    (h : c.machine.step c.rules c.source = ⟨.ok cycle, m, source⟩) :
    c.step = ⟨.ok cycle, { c with machine := m, source := source, cycles := c.cycles + 1 },
      c.machine.cycleLog⟩ := by
  simp only [step, h]

theorem step_of_error {fault : Fault} {m : Machine} {source : ByteSource}
    (h : c.machine.step c.rules c.source = ⟨.error fault, m, source⟩) :
    c.step = ⟨.error fault, { c with machine := m, source := source },
      c.machine.cycleLog⟩ := by
  simp only [step, h]

theorem step_result (c : Console) :
    c.step.result = (c.machine.step c.rules c.source).result := by
  rcases h : c.machine.step c.rules c.source with ⟨fault | cycle, m, source⟩
  · rw [step_of_error h]
  · rw [step_of_ok h]

/-- A cycle of a console is a cycle of its machine, whether it is counted or not. -/
theorem step_console (c : Console) :
    let o := c.machine.step c.rules c.source
    ∃ cycles,
      c.step.console = { c with machine := o.machine, source := o.source, cycles := cycles } := by
  rcases h : c.machine.step c.rules c.source with ⟨fault | cycle, m, source⟩
  · exact ⟨c.cycles, by rw [step_of_error h]⟩
  · exact ⟨c.cycles + 1, by rw [step_of_ok h]⟩

/-- A cycle never notes a halt. -/
theorem halted_step (c : Console) : c.step.console.halted = c.halted := by
  obtain ⟨cycles, h⟩ := step_console c
  rw [h]

/-- A cycle that succeeds reports the word at the program counter. -/
theorem cycle_of_step {cycle : Cycle} (h : c.step.result = .ok cycle) :
    c.machine.pc.toNat ≠ 0xFFF ∧ cycle.address = c.machine.pc ∧
      cycle.word = c.machine.nextWord := by
  rw [step_result] at h
  exact Machine.cycle_of_step h

/-- A cycle that succeeds has recorded whether its word encodes an instruction. -/
theorem isImplemented_of_step {cycle : Cycle} (h : c.step.result = .ok cycle) :
    cycle.isImplemented = cycle.word.isKnown := by
  rw [step_result] at h
  exact Machine.isImplemented_of_step h

/-- A cycle at a word that stops a program is counted, and the word is noted. -/
theorem step_of_stop {reason : Halt} (h : c.machine.StopsFor reason) :
    c.step = ⟨.ok ⟨c.machine.pc, c.machine.nextWord, false, false, false⟩,
      { c with machine := c.machine.latch c.machine.nextWord, cycles := c.cycles + 1 },
      c.machine.cycleLog⟩ :=
  step_of_ok (Machine.step_unknown h.pc_ne h.decode_eq_none)

theorem agree_of_stop {reason : Halt} (h : c.machine.StopsFor reason) :
    c.Agree c.step.console := by
  rw [step_of_stop h]
  exact ⟨c.machine.nextWord, c.cycles + 1, rfl⟩

/-- A cycle at a word that stops a program stays at that word. -/
theorem stopsFor_step {reason : Halt} (h : c.machine.StopsFor reason) :
    c.step.console.machine.StopsFor reason := by
  rw [step_of_stop h]
  exact h.congr rfl rfl

/-- A cycle that gets nowhere is counted, and its word is noted. -/
theorem step_of_idle {cycle : Cycle} (h : c.step.result = .ok cycle)
    (hidle : cycle.isImplemented = false ∨ cycle.waiting = true) :
    c.step = ⟨.ok cycle,
      { c with machine := c.machine.latch c.machine.nextWord, cycles := c.cycles + 1 },
      c.machine.cycleLog⟩ := by
  rw [step_result] at h
  exact step_of_ok (Machine.step_of_idle h hidle).1

/-- A cycle that gets nowhere leaves a console that the program cannot tell apart, and the next
cycle comes out the same. -/
theorem agree_of_idle {cycle : Cycle} (h : c.step.result = .ok cycle)
    (hidle : cycle.isImplemented = false ∨ cycle.waiting = true) :
    c.Agree c.step.console ∧ c.step.console.step.result = .ok cycle := by
  have hm : (c.machine.step c.rules c.source).result = .ok cycle := by
    rw [← step_result]
    exact h
  rw [step_of_idle h hidle]
  refine ⟨⟨c.machine.nextWord, c.cycles + 1, rfl⟩, ?_⟩
  rw [step_result]
  show ((c.machine.latch c.machine.nextWord).step c.rules c.source).result = .ok cycle
  rw [Machine.step_repeat hm hidle]

/-- A cycle without an instruction is at a word that stops a program. -/
theorem stopsFor_of_unknown {cycle : Cycle} (h : c.step.result = .ok cycle)
    (hun : cycle.isImplemented = false) :
    c.machine.StopsFor (if cycle.word = 0 then .endMarker else .unknownWord) := by
  obtain ⟨hpc, -, hword⟩ := cycle_of_step h
  have hle : c.machine.pc.toNat ≤ 0xFFE := by
    have := c.machine.pc.isLt
    omega
  rw [isImplemented_of_step h, Word.isKnown_eq_false_iff,
    ← Word.operation_eq_unknown_iff] at hun
  rw [hword] at hun ⊢
  by_cases h0 : c.machine.nextWord = 0
  · rw [if_pos h0]
    exact ⟨hle, h0⟩
  · rw [if_neg h0]
    exact ⟨hle, h0, hun⟩

theorem peek_eq_error_iff {fault : Fault} :
    c.peek = .error fault ↔ c.machine.pc.toNat = 0xFFF ∧ fault = Fault.pastEnd := by
  by_cases hpc : c.machine.pc.toNat = 0xFFF
  · rw [peek, Machine.fetch_at_end hpc]
    exact ⟨fun h => ⟨hpc, (Except.error.inj h).symm⟩, fun h => by rw [h.2]⟩
  · rw [peek, Machine.fetch_before_end hpc]
    exact ⟨(fun h => nomatch h), fun h => absurd h.1 hpc⟩

theorem peek_eq_ok_iff {word : Word} :
    c.peek = .ok word ↔ c.machine.pc.toNat ≠ 0xFFF ∧ word = c.machine.nextWord := by
  by_cases hpc : c.machine.pc.toNat = 0xFFF
  · rw [peek, Machine.fetch_at_end hpc]
    exact ⟨(fun h => nomatch h), fun h => absurd hpc h.1⟩
  · rw [peek, Machine.fetch_before_end hpc]
    exact ⟨fun h => ⟨hpc, (Except.ok.inj h).symm⟩, fun h => by rw [h.2]⟩

end Console
end ChipEight
