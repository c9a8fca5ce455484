/-
Sizes and ranges.

A host sees a machine as numbers and rows of numbers: sixteen registers, 4096 bytes of memory,
2048 pixels, sixteen keys, and a stack of return addresses.  `WellFormed` says what is
promised of them.  Most of it is built into the types of a machine, so that no request can
break it; the height of the stack is not.  It is bounded by the settings, and the bound
rests on the one check that a call makes.

The types would hide one mistake.  A row that cannot change its length silently drops what
does not fit, where a row of any length would grow or shrink.  `StoresFit` rules that out: on
plain lists, where replacing a part by a block of another length does change the length, the
stores of a machine still come out the same.
-/
import ChipEight.Proofs.Console.Requests

namespace ChipEight

namespace Machine

/-! ### The rows of a machine -/

/-- The contents of the registers. -/
def registerRow (m : Machine) : List Nat := m.v.toList.map BitVec.toNat

/-- The return addresses. -/
def stackRow (m : Machine) : List Nat := m.stack.map BitVec.toNat

/-- The contents of memory. -/
def memoryRow (m : Machine) : List Nat := m.memory.bytes.toList.map BitVec.toNat

/-- The pixels, one for lit and zero for dark. -/
def pixelRow (m : Machine) : List Nat := m.display.pixels.toList.map Bool.toNat

/-- The keys, true for pressed. -/
def keyRow (m : Machine) : List Bool := m.keypad.pressed.toList

/-- Every part of the machine has its size and its range. -/
structure WellFormed (stackDepth : Nat) (m : Machine) : Prop where
  registers_length : m.registerRow.length = 16
  registers_le : ∀ b ∈ m.registerRow, b ≤ 255
  pc_le : m.pc.toNat ≤ 4095
  i_le : m.i.toNat ≤ 4095
  delay_le : m.delay.toNat ≤ 255
  sound_le : m.sound.toNat ≤ 255
  stack_length : m.stackRow.length ≤ stackDepth
  stack_le : ∀ a ∈ m.stackRow, a ≤ 4095
  memory_length : m.memoryRow.length = 4096
  memory_le : ∀ b ∈ m.memoryRow, b ≤ 255
  pixels_length : m.pixelRow.length = 2048
  pixels_le : ∀ p ∈ m.pixelRow, p = 0 ∨ p = 1
  keys_length : m.keyRow.length = 16

theorem le_of_mem_row {w n bound : Nat} {l : List (BitVec w)}
    (hbound : ∀ b : BitVec w, b.toNat ≤ bound) (h : n ∈ l.map BitVec.toNat) : n ≤ bound := by
  obtain ⟨b, -, rfl⟩ := List.mem_map.mp h
  exact hbound b

/-- Only the height of the stack is not settled by the types. -/
theorem wellFormed_of_stack {m : Machine} {stackDepth : Nat}
    (h : m.stack.length ≤ stackDepth) : m.WellFormed stackDepth where
  registers_length := by rw [registerRow, List.length_map, Vector.length_toList]
  registers_le _ hb := le_of_mem_row (fun b => Nat.le_of_lt_succ b.isLt) hb
  pc_le := Nat.le_of_lt_succ m.pc.isLt
  i_le := Nat.le_of_lt_succ m.i.isLt
  delay_le := Nat.le_of_lt_succ m.delay.isLt
  sound_le := Nat.le_of_lt_succ m.sound.isLt
  stack_length := by rw [stackRow, List.length_map]; exact h
  stack_le _ ha := le_of_mem_row (fun a => Nat.le_of_lt_succ a.isLt) ha
  memory_length := by rw [memoryRow, List.length_map, Vector.length_toList]
  memory_le _ hb := le_of_mem_row (fun b => Nat.le_of_lt_succ b.isLt) hb
  pixels_length := by rw [pixelRow, List.length_map, Vector.length_toList]
  pixels_le p hp := by
    obtain ⟨lit, -, rfl⟩ := List.mem_map.mp hp
    cases lit
    · exact .inl rfl
    · exact .inr rfl
  keys_length := by rw [keyRow, Vector.length_toList]

/-! ### The height of the stack -/

variable {rules : Rules} {source : ByteSource} {m : Machine}

/-- An instruction that is executed leaves the stack within its bound. -/
theorem stack_length_of_executed {ins : Instruction} {effect : Effect}
    (he : Executed rules source m ins effect) (h : m.stack.length ≤ rules.stackDepth) :
    effect.machine.stack.length ≤ rules.stackDepth := by
  cases he with
  | ret hs =>
      rw [hs, List.length_cons] at h
      exact Nat.le_of_succ_le h
  | call nnn hs => exact hs
  | _ => exact h

theorem stack_length_of_step (h : m.stack.length ≤ rules.stackDepth) :
    (m.step rules source).machine.stack.length ≤ rules.stackDepth := by
  have hout := outcomes_step rules source m
  generalize m.step rules source = o at hout
  cases hout with
  | executed hpc hd he => exact stack_length_of_executed he h
  | _ => exact h

/-! ### Blocks are stored whole -/

/-- Every block that is stored has the length of the place that it is put into. -/
structure StoresFit : Prop where
  /-- A block replaces as many bytes as it has, at whatever address it is accepted. -/
  writeBlock : ∀ {memory memory' : Memory} {address values},
    Memory.writeBlock address values memory = .ok () memory' →
      memory'.bytes.toList = splice memory.bytes.toList address.toNat values.length values
  /-- The three digits replace three bytes. -/
  storeDecimal : ∀ {rules source m x effect},
    execute rules (.storeDecimal x) (.start source m) = .ok () effect →
      effect.machine.memory.bytes.toList =
        splice m.memory.bytes.toList m.i.toNat 3 (decimalDigits (m.v.read x))
  /-- The registers up to `Vx` replace as many bytes. -/
  storeRegisters : ∀ {rules source m x effect},
    execute rules (.storeRegisters x) (.start source m) = .ok () effect →
      effect.machine.memory.bytes.toList =
        splice m.memory.bytes.toList m.i.toNat (x.toNat + 1) (m.v.toList.take (x.toNat + 1))
  /-- The bytes replace the registers up to `Vx`. -/
  loadRegisters : ∀ {rules source m x effect},
    execute rules (.loadRegisters x) (.start source m) = .ok () effect →
      effect.machine.v.toList =
        splice m.v.toList 0 (x.toNat + 1)
          ((m.memory.bytes.toList.drop m.i.toNat).take (x.toNat + 1))
  /-- A program replaces as many bytes as it has. -/
  load : ∀ {data m m'}, Machine.load data m = .ok () m' →
    m'.memory.bytes.toList =
      splice Memory.powerOn.bytes.toList Memory.programStart data.length data

theorem storesFit : StoresFit where
  writeBlock h := Memory.toList_writeBlock h
  storeDecimal h := by
    cases execute_eq_ok_iff.mp h with
    | storeDecimal x hi => exact Memory.toList_store _ _ _ (Nat.not_lt.mp hi)
  storeRegisters {_ _ m x _} h := by
    cases execute_eq_ok_iff.mp h with
    | storeRegisters x hi =>
        have hfit := Memory.toList_store m.memory m.i.toNat (m.v.upTo x)
          (by rw [Registers.length_upTo]; omega)
        rw [Registers.length_upTo] at hfit
        exact hfit
  loadRegisters {_ _ m x _} h := by
    cases execute_eq_ok_iff.mp h with
    | loadRegisters x hi =>
        have hx : x.toNat < 16 := x.isLt
        have hfit := Registers.toList_fill m.v 0 (m.memory.slice m.i.toNat (x.toNat + 1))
          (by rw [Memory.length_slice]; omega)
        rw [Memory.length_slice] at hfit
        rw [← Memory.slice_eq_take_drop m.memory (by omega)]
        exact hfit
  load {data m m'} h := by
    rcases Nat.lt_or_ge Memory.programLimit data.length with hlarge | hfits
    · rw [load_of_large hlarge] at h
      cases h
    · rw [load_of_fits hfits] at h
      cases h
      refine Memory.toList_store _ _ _ ?_
      simp only [Memory.programLimit, Memory.programStart, Memory.size] at hfits ⊢
      omega

end Machine

namespace Console

/-- The settings stay, and the stack stays within the bound that they give. -/
theorem invariant_stack (settings : Settings) :
    Invariant fun c => c.settings = settings ∧ c.machine.stack.length ≤ settings.stackDepth where
  step := by
    rintro c ⟨rfl, hc⟩
    obtain ⟨cycles, h⟩ := step_console c
    rw [h]
    exact ⟨rfl, Machine.stack_length_of_step hc⟩
  halt _ _ h _ := h
  tick _ h := h
  withKeypad _ _ h := h
  seen _ h := h
  loaded _ _ _ h := ⟨h.1, Nat.zero_le _⟩

/-- **A console is well formed after every sequence of requests.**  Whatever is asked of it,
and whether it succeeds or fails, every part of its machine keeps its size and its range, and
no store on the way relies on being cut off. -/
theorem wellFormed_after (settings : Settings) (source : ByteSource) (requests : List Request) :
    ((Console.new settings source).after requests).machine.WellFormed settings.stackDepth ∧
      Machine.StoresFit := by
  refine ⟨?_, Machine.storesFit⟩
  have hnew : (Console.new settings source).machine.stack.length ≤ settings.stackDepth :=
    Nat.zero_le _
  exact Machine.wellFormed_of_stack ((invariant_stack settings).after requests ⟨rfl, hnew⟩).2

end Console
end ChipEight
