/-
What a cycle reads and writes in memory.

A cycle reads the two bytes at the program counter.  Beyond that only a sprite that is drawn and
registers that are loaded come from memory, and only digits and registers that are stored go
there.  `Reads` and `Writes` list the positions, told by the word at the program counter.

Whatever a memory holds elsewhere makes no difference.  `step_withMemory` compares a machine with
the same machine on another memory that agrees with its own wherever the cycle reads: the cycle
comes out the same, it writes the same bytes, and every byte that it does not write stays as it
is in either of the memories.  If the two memories differ in a single byte, that byte is all that
the machines can differ in afterwards.
-/
import ChipEight.Proofs.Machine.Cycle

namespace ChipEight

namespace Memory

theorem slice_congr {m n : Memory} {a count : Nat}
    (h : ∀ k < count, m.byteAt (a + k) = n.byteAt (a + k)) : m.slice a count = n.slice a count :=
  List.map_congr_left fun k hk => h k (List.mem_range.mp hk)

end Memory

namespace Machine

/-- The machine with another memory. -/
def withMemory (m : Machine) (memory : Memory) : Machine := { m with memory := memory }

/-- The machine with one byte of its memory replaced. -/
def poke (m : Machine) (a : Nat) (b : Byte) : Machine := m.withMemory (m.memory.setByte a b)

/-- The positions that the next cycle reads. -/
inductive Reads (m : Machine) : Nat → Prop
  | high : Reads m m.pc.toNat
  | low : Reads m (m.pc.toNat + 1)
  /-- A sprite is read row by row. -/
  | draw (x y : Register) (n : Nibble) (hw : m.nextWord = .ofNibbles 0xD x y n) {k : Nat}
      (hk : k < n.toNat) : Reads m (m.i.toNat + k)
  /-- A byte is read for each register. -/
  | loadRegisters (x : Register) (hw : m.nextWord = .withByte 0xF x 0x65) {k : Nat}
      (hk : k ≤ x.toNat) : Reads m (m.i.toNat + k)

/-- The positions that the next cycle writes; a block that does not fit is not written. -/
inductive Writes (m : Machine) : Nat → Prop
  /-- Three digits are written. -/
  | storeDecimal (x : Register) (hpc : m.pc.toNat ≠ 0xFFF)
      (hw : m.nextWord = .withByte 0xF x 0x33) (hi : m.i.toNat + 3 ≤ Memory.size) {k : Nat}
      (hk : k < 3) : Writes m (m.i.toNat + k)
  /-- A byte is written for each register. -/
  | storeRegisters (x : Register) (hpc : m.pc.toNat ≠ 0xFFF)
      (hw : m.nextWord = .withByte 0xF x 0x55) (hi : m.i.toNat + x.toNat + 1 ≤ Memory.size)
      {k : Nat} (hk : k ≤ x.toNat) : Writes m (m.i.toNat + k)

variable {rules : Rules} {source : ByteSource} {m : Machine}

/-- The block that an instruction stores at the index register. -/
def stored (m : Machine) : Instruction → List Byte
  | .storeDecimal x => decimalDigits (m.v.read x)
  | .storeRegisters x => m.v.upTo x
  | _ => []

/-- A word without an instruction is all that a cycle reads there. -/
theorem Reads.of_unknown {a : Nat} (h : m.Reads a) (hd : Instruction.decode m.nextWord = none) :
    a = m.pc.toNat ∨ a = m.pc.toNat + 1 := by
  cases h with
  | high => exact .inl rfl
  | low => exact .inr rfl
  | draw x y n hw hk =>
      have hdraw : Instruction.decode m.nextWord = some (.draw x y n) :=
        Instruction.decode_eq_some_iff.mpr hw.symm
      rw [hd] at hdraw
      cases hdraw
  | loadRegisters x hw hk =>
      have hload : Instruction.decode m.nextWord = some (.loadRegisters x) :=
        Instruction.decode_eq_some_iff.mpr hw.symm
      rw [hd] at hload
      cases hload

/-! ### The positions that are written -/

theorem Writes.lt_size {a : Nat} (h : m.Writes a) : a < Memory.size := by
  cases h with
  | storeDecimal x hpc hw hi hk => omega
  | storeRegisters x hpc hw hi hk => omega

theorem Writes.pc_ne {a : Nat} (h : m.Writes a) : m.pc.toNat ≠ 0xFFF := by
  cases h with
  | storeDecimal x hpc => exact hpc
  | storeRegisters x hpc => exact hpc

/-- A cycle that writes executes an instruction that stores a block. -/
theorem Writes.instruction (rules : Rules) {a : Nat} (h : m.Writes a) :
    ∃ ins, Instruction.decode m.nextWord = some ins ∧ (∀ cause, ¬Refused rules m ins cause) ∧
      m.i.toNat ≤ a ∧ a < m.i.toNat + (m.stored ins).length := by
  cases h with
  | storeDecimal x hpc hw hi hk =>
      refine ⟨.storeDecimal x, Instruction.decode_eq_some_iff.mpr hw.symm, ?_, by omega, ?_⟩
      · rintro _ (⟨x, hfull⟩)
        omega
      · exact Nat.add_lt_add_left hk _
  | storeRegisters x hpc hw hi hk =>
      refine ⟨.storeRegisters x, Instruction.decode_eq_some_iff.mpr hw.symm, ?_, by omega, ?_⟩
      · rintro _ (⟨x, hfull⟩)
        omega
      · rw [stored, Registers.length_upTo]
        omega

/-- If the instruction is executed, the positions that are written are those of its block. -/
theorem writes_iff_of_executed {ins : Instruction} {effect : Effect} {a : Nat}
    (hpc : m.pc.toNat ≠ 0xFFF) (hd : Instruction.decode m.nextWord = some ins)
    (he : Executed rules source (m.latch m.nextWord) ins effect) :
    m.Writes a ↔ m.i.toNat ≤ a ∧ a < m.i.toNat + (m.stored ins).length := by
  constructor
  · intro h
    obtain ⟨ins', hd', -, hblock⟩ := h.instruction rules
    obtain rfl : ins = ins' := Option.some.inj (hd.symm.trans hd')
    exact hblock
  · rintro ⟨hle, hlt⟩
    obtain ⟨k, rfl⟩ := Nat.exists_eq_add_of_le hle
    have hw : m.nextWord = ins.encode := (Instruction.encode_of_decode hd).symm
    have hk : k < (m.stored ins).length := by omega
    cases he with
    | storeDecimal x hi => exact .storeDecimal x hpc hw (Nat.not_lt.mp hi) hk
    | storeRegisters x hi =>
        rw [stored, Registers.length_upTo] at hk
        exact .storeRegisters x hpc hw (Nat.not_lt.mp hi) (Nat.lt_succ_iff.mp hk)
    | _ => exact absurd hk (Nat.not_lt_zero k)

/-! ### The same cycle on another memory -/

theorem refused_withMemory {ins : Instruction} {cause : Cause} (memory : Memory)
    (hr : Refused rules m ins cause) : Refused rules (m.withMemory memory) ins cause := by
  cases hr <;> constructor <;> assumption

/-- The word at the program counter is read, so it is the same. -/
theorem nextWord_withMemory {memory : Memory}
    (hreads : ∀ a, m.Reads a → memory.byteAt a = m.memory.byteAt a) :
    (m.withMemory memory).nextWord = m.nextWord := by
  show Word.ofBytes (memory.byteAt m.pc.toNat) (memory.byteAt (m.pc.toNat + 1)) = _
  rw [hreads _ .high, hreads _ .low]
  rfl

/-- An instruction stores its block in either memory, and does the same otherwise. -/
theorem executed_withMemory {ins : Instruction} {effect : Effect} {memory : Memory}
    (hw : m.nextWord = ins.encode)
    (hreads : ∀ a, m.Reads a → memory.byteAt a = m.memory.byteAt a)
    (he : Executed rules source (m.latch m.nextWord) ins effect) :
    effect.machine.memory = m.memory.store m.i.toNat (m.stored ins) ∧
      Executed rules source ((m.withMemory memory).latch m.nextWord) ins
        { effect with
          machine := effect.machine.withMemory (memory.store m.i.toNat (m.stored ins)) } := by
  cases he with
  | draw x y n hi =>
      -- The sprite is read, so it is the same in both memories; so are the registers below.
      have hslice : memory.slice m.i.toNat n.toNat = m.memory.slice m.i.toNat n.toNat :=
        Memory.slice_congr fun k hk => hreads _ (.draw x y n hw hk)
      refine ⟨rfl, ?_⟩
      show Executed _ _ _ _ ⟨((m.latch m.nextWord).withSprite x y
        (m.memory.slice m.i.toNat n.toNat)).withMemory memory, source, false, true⟩
      rw [← hslice]
      exact .draw x y n hi
  | loadRegisters x hi =>
      have hslice : memory.slice m.i.toNat (x.toNat + 1)
          = m.memory.slice m.i.toNat (x.toNat + 1) :=
        Memory.slice_congr fun k hk =>
          hreads _ (.loadRegisters x hw (Nat.lt_succ_iff.mp hk))
      refine ⟨rfl, ?_⟩
      show Executed _ _ _ _ ⟨(advance
        { m.latch m.nextWord with
          v := m.v.fill 0 (m.memory.slice m.i.toNat (x.toNat + 1))
          i := m.i + x.setWidth 12 + 1 }).withMemory memory, source, false, false⟩
      rw [← hslice]
      exact .loadRegisters x hi
  | _ => exact ⟨rfl, by constructor <;> assumption⟩

/-- What a cycle makes of two memories: it writes the same bytes into both, and leaves every
other byte of both as it was. -/
structure Stores (m : Machine) (memory after after' : Memory) : Prop where
  written : ∀ {a}, m.Writes a → after'.byteAt a = after.byteAt a
  kept : ∀ {a}, ¬m.Writes a → after.byteAt a = m.memory.byteAt a
  kept' : ∀ {a}, ¬m.Writes a → after'.byteAt a = memory.byteAt a

theorem stores_nothing {memory : Memory} (h : ∀ a, ¬m.Writes a) :
    Stores m memory m.memory memory :=
  ⟨fun {a} hw => absurd hw (h a), fun _ => rfl, fun _ => rfl⟩

theorem stores_block {memory : Memory} {bytes : List Byte}
    (h : ∀ a, m.Writes a ↔ m.i.toNat ≤ a ∧ a < m.i.toNat + bytes.length) :
    Stores m memory (m.memory.store m.i.toNat bytes) (memory.store m.i.toNat bytes) := by
  have houtside : ∀ {a}, ¬m.Writes a → ∀ memory : Memory,
      (memory.store m.i.toNat bytes).byteAt a = memory.byteAt a := by
    intro a ha memory
    refine memory.byteAt_store_of_outside ?_
    rw [h] at ha
    omega
  refine ⟨fun {a} ha => ?_, fun ha => houtside ha m.memory, fun ha => houtside ha memory⟩
  obtain ⟨hle, hlt⟩ := (h a).mp ha
  have hk : a - m.i.toNat < bytes.length := by omega
  rw [Memory.byteAt_store, Memory.byteAt_store, if_pos ⟨hle, ha.lt_size⟩,
    if_pos ⟨hle, ha.lt_size⟩, List.getElem?_eq_getElem hk, Option.getD_some, Option.getD_some]

/-- **A cycle depends on no byte that it does not read.**  On another memory that agrees with the
machine's own wherever the cycle reads, it comes out the same, and the two memories differ
afterwards as they did before, except that what was written is the same. -/
theorem step_withMemory (rules : Rules) (source : ByteSource) (m : Machine) (memory : Memory)
    (hreads : ∀ a, m.Reads a → memory.byteAt a = m.memory.byteAt a) :
    let o := m.step rules source
    ∃ memory', (m.withMemory memory).step rules source =
        { o with machine := o.machine.withMemory memory' } ∧
      Stores m memory o.machine.memory memory' := by
  intro o
  have hword := nextWord_withMemory hreads
  have hout : Outcomes rules source m o := outcomes_step rules source m
  generalize o = o at hout ⊢
  cases hout with
  | pastEnd hpc =>
      exact ⟨memory, step_pastEnd (m := m.withMemory memory) hpc,
        stores_nothing fun a hw => hw.pc_ne hpc⟩
  | unknown hpc hd =>
      have hstep : (m.withMemory memory).step rules source = _ := step_unknown hpc (hword ▸ hd)
      rw [hword] at hstep
      refine ⟨memory, hstep, stores_nothing fun a hw => ?_⟩
      obtain ⟨ins, hd', -⟩ := hw.instruction rules
      rw [hd] at hd'
      cases hd'
  | refused hpc hd hr =>
      have hstep : (m.withMemory memory).step rules source = _ :=
        step_refused (m := m.withMemory memory) hpc (hword ▸ hd) (refused_withMemory memory hr)
      rw [hword] at hstep
      refine ⟨memory, hstep, stores_nothing fun a hw => ?_⟩
      obtain ⟨ins, hd', hnot, -⟩ := hw.instruction rules
      obtain rfl := Option.some.inj (hd.symm.trans hd')
      exact hnot _ hr
  | @executed hpc ins effect hd he =>
      obtain ⟨hmemory, he'⟩ :=
        executed_withMemory (Instruction.encode_of_decode hd).symm hreads he
      rw [← hword] at he'
      have hstep := step_executed (m := m.withMemory memory) hpc (hword ▸ hd) he'
      rw [hword] at hstep
      refine ⟨_, hstep, ?_⟩
      show Stores m memory effect.machine.memory _
      rw [hmemory]
      exact stores_block fun a => writes_iff_of_executed hpc hd he

/-! ### A single byte -/

/-- The second outcome is that of a cycle on a memory with another byte at a position: it is the
first one, and the byte is still there unless the cycle has written the position. -/
structure Unaffected (m : Machine) (a : Nat) (b : Byte) (o o' : StepOutcome) : Prop where
  result : o'.result = o.result
  source : o'.source = o.source
  written : m.Writes a → o'.machine = o.machine
  kept : ¬m.Writes a → o'.machine = o.machine.poke a b

theorem unaffected_step (rules : Rules) (source : ByteSource) {a : Nat} (b : Byte)
    (ha : ¬m.Reads a) :
    Unaffected m a b (m.step rules source) ((m.poke a b).step rules source) := by
  have hreads : ∀ k, m.Reads k → (m.memory.setByte a b).byteAt k = m.memory.byteAt k := by
    intro k hk
    rw [Memory.byteAt_setByte, if_neg]
    rintro ⟨rfl, -⟩
    exact ha hk
  obtain ⟨memory', hstep, hstores⟩ := step_withMemory rules source m _ hreads
  -- Away from the position, the two memories are the same before and afterwards.
  have hoff : ∀ k, a ≠ k → memory'.byteAt k = (m.step rules source).machine.memory.byteAt k := by
    intro k hne
    by_cases hw : m.Writes k
    · exact hstores.written hw
    · rw [hstores.kept' hw, hstores.kept hw, Memory.byteAt_setByte, if_neg (fun h => hne h.1)]
  rw [poke, hstep]
  refine ⟨rfl, rfl, fun hw => ?_, fun hw => ?_⟩
  · have hmemory : memory' = (m.step rules source).machine.memory := by
      refine Memory.ext_byteAt fun k _ => ?_
      by_cases hk : a = k
      · exact hk ▸ hstores.written hw
      · exact hoff k hk
    rw [hmemory]
    rfl
  · have hmemory : memory' = (m.step rules source).machine.memory.setByte a b := by
      refine Memory.ext_byteAt fun k hlt => ?_
      rw [Memory.byteAt_setByte]
      by_cases hk : a = k
      · subst hk
        rw [if_pos ⟨rfl, hlt⟩, hstores.kept' hw, Memory.byteAt_setByte, if_pos ⟨rfl, hlt⟩]
      · rw [if_neg (fun h => hk h.1), hoff k hk]
    rw [hmemory]
    rfl

end Machine
end ChipEight
