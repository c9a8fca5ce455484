/-
Programs do not notice the bytes that they do not read.

Two consoles are compared that hold different memories.  As long as no cycle of the first one
reads a byte in which they differ, the cycles of both come out the same.  A byte in which they
differ keeps what it had, in each of the memories, until a cycle writes it; from then on the two
agree there.  So nothing is ever added to the differences, and that is what carries the
comparison through a run of any length.

A run ends with the first cycle that executes no instruction.  If one goes on after that cycle, it
comes again and again, so nothing is read that was not read before.
-/
import ChipEight.Proofs.Console.Lockstep
import ChipEight.Proofs.Machine.Footprint

namespace ChipEight

/-- A cycle that executes no instruction comes again, with the same result. -/
theorem Machine.step_stuck {rules : Rules} {source : ByteSource} {m : Machine}
    (h : ∀ cycle, (m.step rules source).result = .ok cycle → cycle.isImplemented = false) :
    let o := m.step rules source
    (∃ word, o.machine = m.latch word) ∧ (o.machine.step rules o.source).result = o.result := by
  intro o
  have hout : Outcomes rules source m o := outcomes_step rules source m
  replace h : ∀ cycle, o.result = .ok cycle → cycle.isImplemented = false := h
  generalize o = o at hout h
  cases hout with
  | pastEnd hpc => exact ⟨⟨m.lastWord, rfl⟩, by rw [step_pastEnd hpc]⟩
  | unknown hpc hd => exact ⟨⟨m.nextWord, rfl⟩, by rw [step_latch hpc, step_unknown hpc hd]⟩
  | refused hpc hd hr => exact ⟨⟨m.nextWord, rfl⟩, by rw [step_latch hpc, step_refused hpc hd hr]⟩
  | executed hpc hd he => cases h _ rfl

/-- What is read does not depend on the record of the last word. -/
theorem Machine.Reads.of_latch {m : Machine} {word : Word} {a : Nat}
    (h : (m.latch word).Reads a) : m.Reads a := by
  cases h with
  | high => exact .high
  | low => exact .low
  | draw x y n hw hk => exact .draw (m := m) x y n hw hk
  | loadRegisters x hw hk => exact .loadRegisters (m := m) x hw hk

namespace Console

/-! ### What a run reads -/

/-- The next cycle executes an instruction. -/
def Proceeds (c : Console) : Prop :=
  ∃ cycle, c.step.result = .ok cycle ∧ cycle.isImplemented = true

/-- A run of up to `n` cycles reads the position; its last cycle is the first one that executes no
instruction. -/
inductive ReadsIn : Console → Nat → Nat → Prop
  | now {c : Console} {n a : Nat} (h : c.machine.Reads a) : ReadsIn c (n + 1) a
  | later {c : Console} {n a : Nat} (hc : c.Proceeds) (h : ReadsIn c.step.console n a) :
      ReadsIn c (n + 1) a

theorem readsIn_one {c : Console} {a : Nat} (h : c.ReadsIn 1 a) : c.machine.Reads a := by
  cases h with
  | now h => exact h
  | later hc h => cases h

theorem step_stuck {c : Console} (h : ¬c.Proceeds) :
    (∃ word, c.step.console.machine = c.machine.latch word) ∧
      c.step.console.step.result = c.step.result := by
  have hun : ∀ cycle, (c.machine.step c.rules c.source).result = .ok cycle →
      cycle.isImplemented = false := by
    intro cycle hcycle
    rw [← step_result] at hcycle
    exact Bool.eq_false_iff.mpr fun himp => h ⟨cycle, hcycle, himp⟩
  obtain ⟨hmachine, hagain⟩ := Machine.step_stuck hun
  refine ⟨machine_step c ▸ hmachine, ?_⟩
  obtain ⟨cycles, hconsole⟩ := step_console c
  rw [hconsole, step_result, step_result]
  exact hagain

theorem afterCycles_stuck (j : Nat) :
    ∀ {c : Console}, ¬c.Proceeds →
      (∃ word, (c.afterCycles j).machine = c.machine.latch word) ∧
        (c.afterCycles j).step.result = c.step.result := by
  induction j with
  | zero => intro c _; exact ⟨⟨c.machine.lastWord, rfl⟩, rfl⟩
  | succ j ih =>
      intro c h
      obtain ⟨⟨word, hword⟩, hresult⟩ := step_stuck h
      have hnext : ¬c.step.console.Proceeds := by
        rw [Proceeds, hresult]
        exact h
      obtain ⟨⟨word', hword'⟩, hresult'⟩ := ih hnext
      exact ⟨⟨word', by rw [afterCycles, hword', hword, Machine.latch_latch]⟩,
        hresult'.trans hresult⟩

/-- Whatever is read in `n` cycles is read by a run of as many. -/
theorem ReadsIn.of_afterCycles {a : Nat} (j : Nat) :
    ∀ {c : Console} {n : Nat}, j < n → (c.afterCycles j).machine.Reads a → c.ReadsIn n a := by
  induction j with
  | zero =>
      intro c n hj h
      cases n with
      | zero => exact absurd hj (Nat.not_lt_zero 0)
      | succ n => exact .now h
  | succ j ih =>
      intro c n hj h
      cases n with
      | zero => exact absurd hj (Nat.not_lt_zero _)
      | succ n =>
          by_cases hc : c.Proceeds
          · exact .later hc (ih (Nat.lt_of_succ_lt_succ hj) h)
          · -- The run ends here, and whatever comes after reads what this cycle reads.
            obtain ⟨⟨word, hword⟩, -⟩ := afterCycles_stuck (j + 1) hc
            rw [hword] at h
            exact .now h.of_latch

/-! ### Another memory -/

/-- The console with another memory. -/
def withMemory (c : Console) (memory : Memory) : Console :=
  c.withMachine (c.machine.withMemory memory)

/-- The second console differs from the first in its memory only, and where it does, it has the
byte that stood in `changed` in the place of another one in `original`. -/
def Overlaid (original changed : Memory) (c d : Console) : Prop :=
  ∃ memory, d = c.withMemory memory ∧
    ∀ a, memory.byteAt a ≠ c.machine.memory.byteAt a →
      changed.byteAt a ≠ original.byteAt a ∧ memory.byteAt a = changed.byteAt a

/-- The next cycle reads no byte that was changed. -/
def ReadsUnchanged (original changed : Memory) (c : Console) : Prop :=
  ∀ a, c.machine.Reads a → changed.byteAt a = original.byteAt a

variable {original changed : Memory}

theorem overlaid_withMemory (c : Console) (changed : Memory) :
    Overlaid c.machine.memory changed c (c.withMemory changed) :=
  ⟨changed, rfl, fun _ h => ⟨h, rfl⟩⟩

theorem overlaid_step {c d : Console} (h : Overlaid original changed c d)
    (hreads : ReadsUnchanged original changed c) :
    c.step.Alike (Overlaid original changed) d.step := by
  obtain ⟨memory, rfl, hmemory⟩ := h
  have hsame : ∀ a, c.machine.Reads a → memory.byteAt a = c.machine.memory.byteAt a :=
    fun a ha => Decidable.byContradiction fun hne => (hmemory a hne).1 (hreads a ha)
  obtain ⟨memory', hstep, hstores⟩ :=
    Machine.step_withMemory c.rules c.source c.machine memory hsame
  obtain ⟨hresult, hconsole⟩ := step_withMachine hstep
  refine ⟨hresult, memory', ?_, fun a hne => ?_⟩
  · rw [withMemory, hconsole, withMemory, machine_step]
  · -- Where the memories still differ, the cycle has written neither of them.
    rw [machine_step] at hne
    have hw : ¬c.machine.Writes a := fun hw => hne (hstores.written hw)
    rw [hstores.kept' hw] at hne ⊢
    rw [hstores.kept hw] at hne
    exact hmemory a hne

/-- Consoles that differ in changed bytes stay together while these bytes are not read. -/
theorem lockstep_overlaid (original changed : Memory) :
    Lockstep (ReadsUnchanged original changed) (Overlaid original changed) where
  step := overlaid_step
  halt := by
    rintro c d reason ⟨memory, rfl, hmemory⟩
    exact ⟨memory, rfl, hmemory⟩
  tick := by
    rintro c d ⟨memory, rfl, hmemory⟩
    exact ⟨memory, rfl, hmemory⟩
  halted := by
    rintro c d ⟨memory, rfl, -⟩
    rfl
  cyclesPerFrame := by
    rintro c d ⟨memory, rfl, -⟩
    rfl

/-- **What a program does depends on no byte that it does not read.**  Whatever byte stands at a
position that the next cycle does not read, the cycle comes out the same and leaves the same
behind; the byte itself stays unless the cycle writes the position.  And if memory is changed
where a run of up to `n` cycles does not read, all its cycles come out the same, as do all runs and
frames of no more cycles, and the consoles differ in nothing but these bytes of memory. -/
theorem unaffected_by_unread :
    (∀ (rules : Rules) (source : ByteSource) (m : Machine) (a : Nat) (b : Byte),
      ¬m.Reads a →
        m.Unaffected a b (m.step rules source) ((m.poke a b).step rules source)) ∧
    ∀ (c : Console) (changed : Memory) (n : Nat),
      (∀ a, c.ReadsIn n a → changed.byteAt a = c.machine.memory.byteAt a) →
        let d := c.withMemory changed
        let R := Overlaid c.machine.memory changed
        (∀ j < n, (d.afterCycles j).step.result = (c.afterCycles j).step.result) ∧
          (∀ j ≤ n, R (c.afterCycles j) (d.afterCycles j)) ∧
          (∀ maxCycles strict, maxCycles.toNat ≤ n →
            (c.run maxCycles strict).Alike R (d.run maxCycles strict)) ∧
          (c.settings.cyclesPerFrame ≤ n → c.runFrame.Alike R d.runFrame) := by
  refine ⟨fun rules source m a b ha => Machine.unaffected_step rules source b ha, ?_⟩
  intro c changed n hreads d R
  have hlock : Lockstep (ReadsUnchanged c.machine.memory changed) R := lockstep_overlaid _ _
  have hstart : R c d := overlaid_withMemory c changed
  have hthroughout : ∀ j ≤ n, Throughout (ReadsUnchanged c.machine.memory changed) c j :=
    fun j hj k hk a ha => hreads a (.of_afterCycles k (Nat.lt_of_lt_of_le hk hj) ha)
  refine ⟨(hlock.afterCycles n hstart (hthroughout n (Nat.le_refl n))).2,
    fun j hj => (hlock.afterCycles j hstart (hthroughout j hj)).1,
    fun maxCycles strict hle => ?_, fun hle => ?_⟩
  · exact hlock.run hstart maxCycles strict (hthroughout _ hle)
  · exact hlock.runFrame hstart (hthroughout _ hle)

/-- Without a program there is no instruction either, so the next cycle reads a single word and
does not notice a byte elsewhere. -/
theorem unaffected_by_unread_new :
    let c := Console.new {} .zeros
    let changed := c.machine.memory.setByte 0x300 0xFF
    (¬c.machine.Reads 0x300 ∧
        ∀ a, c.ReadsIn 1 a → changed.byteAt a = c.machine.memory.byteAt a) ∧
      c.machine.Unaffected 0x300 0xFF (c.machine.step c.rules c.source)
        ((c.machine.poke 0x300 0xFF).step c.rules c.source) ∧
      ∀ j < 1, ((c.withMemory changed).afterCycles j).step.result =
        (c.afterCycles j).step.result := by
  intro c changed
  have hpc : c.machine.pc.toNat = 0x200 := rfl
  have hword : c.machine.nextWord = 0 := by
    rw [Machine.nextWord, Memory.wordAt, hpc]
    show Word.ofBytes (Memory.powerOn.byteAt 0x200) (Memory.powerOn.byteAt 0x201) = 0
    rw [Memory.byteAt_powerOn, Memory.byteAt_powerOn]
    decide
  have hnot : ¬c.machine.Reads 0x300 := by
    intro h
    have hword := h.of_unknown (hword ▸ Word.decode_zero)
    omega
  have hreads : ∀ a, c.ReadsIn 1 a → changed.byteAt a = c.machine.memory.byteAt a := by
    intro a ha
    rw [Memory.byteAt_setByte, if_neg]
    rintro ⟨rfl, -⟩
    exact hnot (readsIn_one ha)
  exact ⟨⟨hnot, hreads⟩, unaffected_by_unread.1 c.rules c.source c.machine 0x300 0xFF hnot,
    (unaffected_by_unread.2 c changed 1 hreads).1⟩

end Console
end ChipEight
