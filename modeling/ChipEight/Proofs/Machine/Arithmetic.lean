/-
Arithmetic in natural numbers.

The instructions that compute on registers work on bytes, and their flag is written after their
result.  Here each of them is told in natural numbers, with `a` and `b` for the registers as they
were before: a carry is a ninth bit of the sum, a shift drops one bit and the flag keeps it, and a
difference is what is left modulo 256.

Every pair of registers is admitted, also one register for both and the flag register for either.
What is read back is settled by which write came last, and `value_withFlag` and `value_withShift`
say so once for the instructions with a flag; the rest is arithmetic on two bytes.
-/
import ChipEight.Proofs.Machine.Cycle

namespace ChipEight

namespace Registers

/-- The contents of a register as a number. -/
def value (v : Registers) (r : Register) : Nat := (v.read r).toNat

theorem value_lt (v : Registers) (r : Register) : v.value r < 256 := (v.read r).isLt

theorem value_write (v : Registers) (r s : Register) (b : Byte) :
    (v.write r b).value s = if r = s then b.toNat else v.value s := by
  unfold value
  rw [read_write]
  split <;> rfl

end Registers

namespace Machine

open Registers (flag)

/-! ### Which write is read back -/

theorem value_withFlag (v : Registers) (x r : Register) (result : Byte) (f : Bool) :
    (withFlag v x result f).value r =
      if r = flag then f.toNat else if r = x then result.toNat else v.value r := by
  simp only [withFlag, Registers.value_write, toNat_flagByte, eq_comm (a := r)]

theorem value_withShift (rules : Rules) (v : Registers) (x y r : Register) (result : Byte)
    (f : Bool) :
    (withShift rules v x y result f).value r =
      if r = flag then f.toNat
      else if r = x ∨ rules.shiftsBoth = true ∧ r = y then result.toNat else v.value r := by
  simp only [withShift, Registers.value_write, toNat_flagByte, eq_comm (a := r)]
  by_cases hr : flag = r
  · simp [hr]
  · cases rules.shiftsBoth
    · simp [hr, Registers.value_write]
    · by_cases hx : x = r <;> simp [hr, hx, Registers.value_write]

/-! ### The laws -/

section Laws

variable (rules : Rules) (source : ByteSource) (m : Machine)

/-- The word stands at the program counter, and there is room for it. -/
def Meets (w : Word) : Prop := m.pc.toNat ≤ 0xFFE ∧ m.nextWord = w

/-- The next cycle succeeds, and this holds of the registers that it leaves. -/
def Leaves (P : Registers → Prop) : Prop :=
  (∃ cycle, (m.step rules source).result = .ok cycle) ∧ P (m.step rules source).machine.v

/-- The next cycle succeeds, and this holds of the machine that it leaves. -/
def Reaches (P : Machine → Prop) : Prop :=
  (∃ cycle, (m.step rules source).result = .ok cycle) ∧ P (m.step rules source).machine

/-- What the instructions make of the contents `a` and `b` of two registers. -/
structure Arithmetic (x y : Register) (nn : Byte) (a b : Nat) : Prop where
  copy : m.Meets (.ofNibbles 0x8 x y 0x0) → m.Leaves rules source fun v =>
    v.value x = b ∧ ∀ r, r ≠ x → v.value r = m.v.value r
  bitOr : m.Meets (.ofNibbles 0x8 x y 0x1) → m.Leaves rules source fun v =>
    v.value x = a ||| b ∧ ∀ r, r ≠ x → v.value r = m.v.value r
  bitAnd : m.Meets (.ofNibbles 0x8 x y 0x2) → m.Leaves rules source fun v =>
    v.value x = a &&& b ∧ ∀ r, r ≠ x → v.value r = m.v.value r
  bitXor : m.Meets (.ofNibbles 0x8 x y 0x3) → m.Leaves rules source fun v =>
    v.value x = a ^^^ b ∧ ∀ r, r ≠ x → v.value r = m.v.value r
  addByte : m.Meets (.withByte 0x7 x nn) → m.Leaves rules source fun v =>
    v.value x = (a + nn.toNat) % 256 ∧ ∀ r, r ≠ x → v.value r = m.v.value r
  /-- The flag is the carry. -/
  add : m.Meets (.ofNibbles 0x8 x y 0x4) → m.Leaves rules source fun v =>
    v.value flag = (if 255 < a + b then 1 else 0) ∧
      (x ≠ flag → 256 * v.value flag + v.value x = a + b)
  /-- The flag says that there was no borrow and something is left. -/
  sub : m.Meets (.ofNibbles 0x8 x y 0x5) → m.Leaves rules source fun v =>
    v.value flag = (if b < a then 1 else 0) ∧
      (x ≠ flag → (v.value x : Int) = ((a : Int) - b) % 256)
  subFrom : m.Meets (.ofNibbles 0x8 x y 0x7) → m.Leaves rules source fun v =>
    v.value flag = (if a < b then 1 else 0) ∧
      (x ≠ flag → (v.value x : Int) = ((b : Int) - a) % 256)
  /-- The flag is the bit that falls out on the right. -/
  shiftRight : m.Meets (.ofNibbles 0x8 x y 0x6) → m.Leaves rules source fun v =>
    v.value flag = a % 2 ∧ (x ≠ flag → 2 * v.value x + v.value flag = a) ∧
      (rules.shiftsBoth = true → y ≠ flag → v.value y = a / 2) ∧
      (rules.shiftsBoth = false → y ≠ x → y ≠ flag → v.value y = b)
  /-- The flag is the bit that falls out on the left. -/
  shiftLeft : m.Meets (.ofNibbles 0x8 x y 0xE) → m.Leaves rules source fun v =>
    v.value flag = a / 128 ∧ (x ≠ flag → 256 * v.value flag + v.value x = 2 * a) ∧
      (rules.shiftsBoth = true → y ≠ flag → v.value y = 2 * a % 256) ∧
      (rules.shiftsBoth = false → y ≠ x → y ≠ flag → v.value y = b)

end Laws

variable {rules : Rules} {source : ByteSource} {m : Machine} {P : Registers → Prop}

/-! ### From the rules to the registers -/

/-- A machine that meets the word of an instruction which can be executed, executes it. -/
theorem step_of_meets {ins : Instruction} {effect : Effect} (hm : m.Meets ins.encode)
    (he : Executed rules source (m.latch m.nextWord) ins effect) :
    m.step rules source =
      ⟨.ok (effect.report m.pc m.nextWord), effect.machine, effect.source⟩ := by
  obtain ⟨hpc, hw⟩ := hm
  exact step_executed (by omega) (Instruction.decode_eq_some_iff.mpr hw.symm) he

theorem reaches_of_executed (ins : Instruction) {effect : Effect} {Q : Machine → Prop}
    (hm : m.Meets ins.encode) (he : Executed rules source (m.latch m.nextWord) ins effect)
    (hQ : Q effect.machine) : m.Reaches rules source Q := by
  have hstep := step_of_meets hm he
  refine ⟨⟨_, congrArg StepOutcome.result hstep⟩, ?_⟩
  rw [hstep]
  exact hQ

theorem Reaches.imp {Q Q' : Machine → Prop} (h : m.Reaches rules source Q)
    (himp : ∀ m', Q m' → Q' m') : m.Reaches rules source Q' := ⟨h.1, himp _ h.2⟩

/-- An instruction that only writes registers is told by the registers that it leaves. -/
theorem leaves_of_executed {ins : Instruction} {v : Registers}
    (he : Executed rules source (m.latch m.nextWord) ins
      ⟨(m.latch m.nextWord).withRegisters v, source, false, false⟩)
    (hm : m.Meets ins.encode) (hP : P v) : m.Leaves rules source P := by
  have hreaches : m.Reaches rules source fun m' => P m'.v := reaches_of_executed ins hm he hP
  exact hreaches

/-- A result without a flag is all that is written. -/
theorem leaves_result {ins : Instruction} {x : Register} {result : Byte} {n : Nat}
    (he : Executed rules source (m.latch m.nextWord) ins
      ⟨(m.latch m.nextWord).withRegisters (m.v.write x result), source, false, false⟩)
    (hm : m.Meets ins.encode) (hn : result.toNat = n) :
    m.Leaves rules source fun v => v.value x = n ∧ ∀ r, r ≠ x → v.value r = m.v.value r := by
  refine leaves_of_executed he hm ⟨?_, ?_⟩
  · rw [Registers.value_write, if_pos rfl, hn]
  · intro r hr
    rw [Registers.value_write, if_neg hr.symm]

/-- A flag is read back in any case, and the result unless it was overwritten. -/
theorem leaves_flagged {ins : Instruction} {x : Register} {result : Byte} {f : Bool}
    (he : Executed rules source (m.latch m.nextWord) ins
      ⟨(m.latch m.nextWord).withRegisters (withFlag m.v x result f), source, false, false⟩)
    (hm : m.Meets ins.encode)
    (hP : ∀ v : Registers, v.value flag = f.toNat → (x ≠ flag → v.value x = result.toNat) → P v) :
    m.Leaves rules source P := by
  refine leaves_of_executed he hm (hP _ ?_ ?_)
  · rw [value_withFlag, if_pos rfl]
  · intro hx
    rw [value_withFlag, if_neg hx, if_pos rfl]

/-- After a shift, the second register holds the result too or is left alone. -/
theorem leaves_shifted {ins : Instruction} {x y : Register} {result : Byte} {f : Bool}
    (he : Executed rules source (m.latch m.nextWord) ins
      ⟨(m.latch m.nextWord).withRegisters (withShift rules m.v x y result f), source, false, false⟩)
    (hm : m.Meets ins.encode)
    (hP : ∀ v : Registers, v.value flag = f.toNat → (x ≠ flag → v.value x = result.toNat) →
      (rules.shiftsBoth = true → y ≠ flag → v.value y = result.toNat) →
      (rules.shiftsBoth = false → y ≠ x → y ≠ flag → v.value y = m.v.value y) → P v) :
    m.Leaves rules source P := by
  refine leaves_of_executed he hm (hP _ ?_ ?_ ?_ ?_)
  · rw [value_withShift, if_pos rfl]
  · intro hx
    rw [value_withShift, if_neg hx, if_pos (.inl rfl)]
  · intro hboth hy
    rw [value_withShift, if_neg hy, if_pos (.inr ⟨hboth, rfl⟩)]
  · intro hboth hyx hy
    rw [value_withShift, if_neg hy, if_neg (by simp [hyx, hboth])]

/-! ### Bytes as numbers -/

theorem toNat_decide (p : Prop) [Decidable p] : (decide p).toNat = if p then 1 else 0 := by
  by_cases h : p <;> simp [h]

theorem toNat_shiftRight_byte (a : Byte) : (a >>> 1).toNat = a.toNat / 2 := by
  simp [Nat.shiftRight_eq_div_pow]

theorem toNat_shiftLeft_byte (a : Byte) : (a <<< 1).toNat = 2 * a.toNat % 256 := by
  simp [Nat.shiftLeft_eq, Nat.mul_comm]

theorem toNat_lowBit (a : Byte) : (a.getLsbD 0).toNat = a.toNat % 2 := by
  rw [BitVec.getLsbD, Nat.testBit_zero, toNat_decide]
  split <;> omega

theorem toNat_highBit (a : Byte) : a.msb.toNat = a.toNat / 128 := by
  have := a.isLt
  rw [BitVec.msb_eq_decide, toNat_decide]
  split <;> omega

/-! ### Instructions with a flag -/

variable {x y : Register}

theorem leaves_add (hm : m.Meets (.ofNibbles 0x8 x y 0x4)) :
    m.Leaves rules source fun v =>
      v.value flag = (if 255 < m.v.value x + m.v.value y then 1 else 0) ∧
        (x ≠ flag → 256 * v.value flag + v.value x = m.v.value x + m.v.value y) := by
  refine leaves_flagged (.add x y) hm ?_
  intro v hflag hresult
  have hx := m.v.value_lt x
  have hy := m.v.value_lt y
  have hf : v.value flag = if 255 < m.v.value x + m.v.value y then 1 else 0 :=
    hflag.trans (toNat_decide _)
  refine ⟨hf, ?_⟩
  intro hne
  have hsum : v.value x = (m.v.value x + m.v.value y) % 256 :=
    (hresult hne).trans (BitVec.toNat_add _ _)
  rw [hf, hsum]
  split <;> omega

/-- Both subtractions leave a difference; they only take the registers in turn. -/
theorem leaves_difference {ins : Instruction} {a b : Byte}
    (he : Executed rules source (m.latch m.nextWord) ins
      ⟨(m.latch m.nextWord).withRegisters (withFlag m.v x (a - b) (decide (b < a))),
        source, false, false⟩)
    (hm : m.Meets ins.encode) :
    m.Leaves rules source fun v =>
      v.value flag = (if b.toNat < a.toNat then 1 else 0) ∧
        (x ≠ flag → (v.value x : Int) = ((a.toNat : Int) - b.toNat) % 256) := by
  refine leaves_flagged he hm ?_
  intro v hflag hresult
  refine ⟨hflag.trans (toNat_decide _), ?_⟩
  intro hne
  rw [hresult hne]
  exact (toNat_sub_mod _ _).symm

theorem leaves_shiftRight (hm : m.Meets (.ofNibbles 0x8 x y 0x6)) :
    m.Leaves rules source fun v =>
      v.value flag = m.v.value x % 2 ∧
        (x ≠ flag → 2 * v.value x + v.value flag = m.v.value x) ∧
        (rules.shiftsBoth = true → y ≠ flag → v.value y = m.v.value x / 2) ∧
        (rules.shiftsBoth = false → y ≠ x → y ≠ flag → v.value y = m.v.value y) := by
  refine leaves_shifted (.shiftRight x y) hm ?_
  intro v hflag hresult hboth hone
  have hf : v.value flag = m.v.value x % 2 := hflag.trans (toNat_lowBit _)
  have hhalf : (m.v.read x >>> 1).toNat = m.v.value x / 2 := toNat_shiftRight_byte _
  refine ⟨hf, ?_, fun h hy => (hboth h hy).trans hhalf, hone⟩
  intro hne
  have hxv := (hresult hne).trans hhalf
  omega

theorem leaves_shiftLeft (hm : m.Meets (.ofNibbles 0x8 x y 0xE)) :
    m.Leaves rules source fun v =>
      v.value flag = m.v.value x / 128 ∧
        (x ≠ flag → 256 * v.value flag + v.value x = 2 * m.v.value x) ∧
        (rules.shiftsBoth = true → y ≠ flag → v.value y = 2 * m.v.value x % 256) ∧
        (rules.shiftsBoth = false → y ≠ x → y ≠ flag → v.value y = m.v.value y) := by
  refine leaves_shifted (.shiftLeft x y) hm ?_
  intro v hflag hresult hboth hone
  have hf : v.value flag = m.v.value x / 128 := hflag.trans (toNat_highBit _)
  have hdouble : (m.v.read x <<< 1).toNat = 2 * m.v.value x % 256 := toNat_shiftLeft_byte _
  refine ⟨hf, ?_, fun h hy => (hboth h hy).trans hdouble, hone⟩
  intro hne
  have hxv := (hresult hne).trans hdouble
  have hlt := m.v.value_lt x
  omega

/-- **The results and flags are right for every pair of registers.**  Each instruction leaves its
result in the register `x`, unless that is the flag register, which holds the flag of the old
contents afterwards. -/
theorem arithmetic (rules : Rules) (source : ByteSource) (m : Machine) (x y : Register)
    (nn : Byte) : Arithmetic rules source m x y nn (m.v.value x) (m.v.value y) where
  copy hm := leaves_result (.copy x y) hm rfl
  bitOr hm := leaves_result (.bitOr x y) hm (BitVec.toNat_or _ _)
  bitAnd hm := leaves_result (.bitAnd x y) hm (BitVec.toNat_and _ _)
  bitXor hm := leaves_result (.bitXor x y) hm (BitVec.toNat_xor _ _)
  addByte hm := leaves_result (.addByte x nn) hm (BitVec.toNat_add _ _)
  add := leaves_add
  sub hm := leaves_difference (.sub x y) hm
  subFrom hm := leaves_difference (.subFrom x y) hm
  shiftRight := leaves_shiftRight
  shiftLeft := leaves_shiftLeft

end Machine
end ChipEight
