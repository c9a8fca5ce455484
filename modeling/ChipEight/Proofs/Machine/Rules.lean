/-
The rules of the instructions.

`execute` goes through an instruction step by step: it reads numbers, computes with them, and
stores them one by one, and each of these steps could be refused.  This file states what comes of
it as two relations.  `Refused` has a rule for each reason to refuse an instruction, and `Executed`
has a rule for each way to execute one, with the machine that comes out of it.
`execute_eq_error_iff` and `execute_eq_ok_iff` say that the steps follow exactly these rules.  An
instruction that is refused has not written anything before, so the machine and the source of
random bytes are still those from the beginning; and no number that is stored in a register is
ever too large or too small for it.

A proof about every instruction is then a case analysis on the rules, in which each case
already knows the machine afterwards and the condition under which it arises.
-/
import ChipEight.Proofs.Memory
import ChipEight.Machine.Cycle

namespace ChipEight

@[simp] theorem Registers.length_upTo (v : Registers) (x : Register) :
    (v.upTo x).length = x.toNat + 1 := by
  have hx : x.toNat < 16 := x.isLt
  rw [upTo, List.length_take, Vector.length_toList]
  omega

namespace Machine

/-! ### Machines that come out -/

/-- The machine at the next word. -/
def advance (m : Machine) : Machine := { m with pc := m.pc + 2 }

/-- The machine at the next word, or at the one after it if `skip` holds. -/
def skipIf (m : Machine) (skip : Bool) : Machine :=
  { m with pc := m.pc + (if skip then 4 else 2) }

/-- A flag as the contents of a register. -/
def flagByte (b : Bool) : Byte := if b then 1 else 0

@[simp] theorem toNat_flagByte (b : Bool) : (flagByte b).toNat = b.toNat := by
  cases b <;> rfl

/-- The registers with a result in `x`, and then with a flag in the flag register. -/
def withFlag (v : Registers) (x : Register) (result : Byte) (flag : Bool) : Registers :=
  (v.write x result).write Registers.flag (flagByte flag)

/-- The registers after a shift: the result goes to `x` and, under the rule for shifts, to
`y`, and then the flag is written. -/
def withShift (rules : Rules) (v : Registers) (x y : Register) (result : Byte) (flag : Bool) :
    Registers :=
  let shifted := v.write x result
  let shifted := if rules.shiftsBoth then shifted.write y result else shifted
  shifted.write Registers.flag (flagByte flag)

/-- The three decimal digits of a byte. -/
def decimalDigits (b : Byte) : List Byte :=
  [BitVec.ofNat 8 (b.toNat / 100), BitVec.ofNat 8 (b.toNat / 10 % 10),
    BitVec.ofNat 8 (b.toNat % 10)]

/-- The machine at the next word, with other registers. -/
def withRegisters (m : Machine) (v : Registers) : Machine := advance { m with v := v }

/-- The machine after a sprite was drawn. -/
def withSprite (m : Machine) (x y : Register) (sprite : List Byte) : Machine :=
  let (collision, display) := m.display.draw (m.v.read x).toNat (m.v.read y).toNat sprite
  advance { m with v := m.v.write Registers.flag (flagByte collision), display := display }

/-! ### The rules -/

section Rules

variable (rules : Rules) (source : ByteSource) (m : Machine)

/-- Why an instruction is refused. -/
inductive Refused : Instruction → Cause → Prop
  /-- A return needs a return address. -/
  | ret (hs : m.stack = []) : Refused .ret .stackUnderflow
  /-- A call needs room for a return address. -/
  | call (nnn : Address) (hs : rules.stackDepth ≤ m.stack.length) :
      Refused (.call nnn) (.stackOverflow m.stack.length)
  /-- A sprite with at least one row has to lie in memory. -/
  | draw (x y : Register) (n : Nibble)
      (hi : 1 ≤ n.toNat ∧ Memory.size < m.i.toNat + n.toNat) :
      Refused (.draw x y n) (.memoryAccess (m.i.toNat + n.toNat - 1 : Nat))
  /-- The three digits have to find room. -/
  | storeDecimal (x : Register) (hi : Memory.size < m.i.toNat + 3) :
      Refused (.storeDecimal x) (.memoryAccess (m.i.toNat + 2 : Nat))
  /-- The registers have to find room. -/
  | storeRegisters (x : Register) (hi : Memory.size < m.i.toNat + x.toNat + 1) :
      Refused (.storeRegisters x) (.memoryAccess (m.i.toNat + x.toNat : Nat))
  /-- There has to be a byte for each register. -/
  | loadRegisters (x : Register) (hi : Memory.size < m.i.toNat + x.toNat + 1) :
      Refused (.loadRegisters x) (.memoryAccess (m.i.toNat + x.toNat : Nat))

/-- How an instruction is executed. -/
inductive Executed : Instruction → Effect → Prop
  | clearScreen :
      Executed .clearScreen ⟨advance { m with display := m.display.clear }, source, false, true⟩
  | ret {address : Address} {rest : List Address} (hs : m.stack = address :: rest) :
      Executed .ret ⟨{ m with stack := rest, pc := address }, source, false, false⟩
  | jump (nnn : Address) : Executed (.jump nnn) ⟨{ m with pc := nnn }, source, false, false⟩
  | call (nnn : Address) (hs : m.stack.length < rules.stackDepth) :
      Executed (.call nnn)
        ⟨{ m with stack := (m.pc + 2) :: m.stack, pc := nnn }, source, false, false⟩
  | jumpFrom (nnn : Address) :
      Executed (.jumpFrom nnn)
        ⟨{ m with pc := (m.v.read 0).setWidth 12 + nnn }, source, false, false⟩
  | skipIfByte (x : Register) (nn : Byte) :
      Executed (.skipIfByte x nn) ⟨m.skipIf (m.v.read x == nn), source, false, false⟩
  | skipUnlessByte (x : Register) (nn : Byte) :
      Executed (.skipUnlessByte x nn) ⟨m.skipIf (m.v.read x != nn), source, false, false⟩
  | skipIfSame (x y : Register) :
      Executed (.skipIfSame x y) ⟨m.skipIf (m.v.read x == m.v.read y), source, false, false⟩
  | skipUnlessSame (x y : Register) :
      Executed (.skipUnlessSame x y) ⟨m.skipIf (m.v.read x != m.v.read y), source, false, false⟩
  | skipIfKey (x : Register) :
      Executed (.skipIfKey x)
        ⟨m.skipIf (m.keypad.isPressed ((m.v.read x).setWidth 4)), source, false, false⟩
  | skipUnlessKey (x : Register) :
      Executed (.skipUnlessKey x)
        ⟨m.skipIf (!m.keypad.isPressed ((m.v.read x).setWidth 4)), source, false, false⟩
  | loadByte (x : Register) (nn : Byte) :
      Executed (.loadByte x nn) ⟨m.withRegisters (m.v.write x nn), source, false, false⟩
  | addByte (x : Register) (nn : Byte) :
      Executed (.addByte x nn)
        ⟨m.withRegisters (m.v.write x (m.v.read x + nn)), source, false, false⟩
  | copy (x y : Register) :
      Executed (.copy x y) ⟨m.withRegisters (m.v.write x (m.v.read y)), source, false, false⟩
  | bitOr (x y : Register) :
      Executed (.bitOr x y)
        ⟨m.withRegisters (m.v.write x (m.v.read x ||| m.v.read y)), source, false, false⟩
  | bitAnd (x y : Register) :
      Executed (.bitAnd x y)
        ⟨m.withRegisters (m.v.write x (m.v.read x &&& m.v.read y)), source, false, false⟩
  | bitXor (x y : Register) :
      Executed (.bitXor x y)
        ⟨m.withRegisters (m.v.write x (m.v.read x ^^^ m.v.read y)), source, false, false⟩
  | add (x y : Register) :
      Executed (.add x y)
        ⟨m.withRegisters (withFlag m.v x (m.v.read x + m.v.read y)
          (decide (255 < (m.v.read x).toNat + (m.v.read y).toNat))), source, false, false⟩
  | sub (x y : Register) :
      Executed (.sub x y)
        ⟨m.withRegisters (withFlag m.v x (m.v.read x - m.v.read y)
          (decide (m.v.read y < m.v.read x))), source, false, false⟩
  | subFrom (x y : Register) :
      Executed (.subFrom x y)
        ⟨m.withRegisters (withFlag m.v x (m.v.read y - m.v.read x)
          (decide (m.v.read x < m.v.read y))), source, false, false⟩
  | shiftRight (x y : Register) :
      Executed (.shiftRight x y)
        ⟨m.withRegisters (withShift rules m.v x y (m.v.read x >>> 1)
          ((m.v.read x).getLsbD 0)), source, false, false⟩
  | shiftLeft (x y : Register) :
      Executed (.shiftLeft x y)
        ⟨m.withRegisters (withShift rules m.v x y (m.v.read x <<< 1) (m.v.read x).msb),
          source, false, false⟩
  | loadIndex (nnn : Address) :
      Executed (.loadIndex nnn) ⟨advance { m with i := nnn }, source, false, false⟩
  | random (x : Register) (nn : Byte) :
      Executed (.random x nn)
        ⟨m.withRegisters (m.v.write x (source.next.1 &&& nn)), source.next.2, false, false⟩
  | draw (x y : Register) (n : Nibble)
      (hi : ¬(1 ≤ n.toNat ∧ Memory.size < m.i.toNat + n.toNat)) :
      Executed (.draw x y n)
        ⟨m.withSprite x y (m.memory.slice m.i.toNat n.toNat), source, false, true⟩
  | readDelay (x : Register) :
      Executed (.readDelay x) ⟨m.withRegisters (m.v.write x m.delay), source, false, false⟩
  | setDelay (x : Register) :
      Executed (.setDelay x) ⟨advance { m with delay := m.v.read x }, source, false, false⟩
  | setSound (x : Register) :
      Executed (.setSound x) ⟨advance { m with sound := m.v.read x }, source, false, false⟩
  | wait (x : Register) (hk : m.keypad.firstPressed = none) :
      Executed (.awaitKey x) ⟨m, source, true, false⟩
  | awaitKey (x : Register) {key : Nibble} (hk : m.keypad.firstPressed = some key) :
      Executed (.awaitKey x) ⟨m.withRegisters (m.v.write x (key.setWidth 8)), source, false, false⟩
  | addIndex (x : Register) :
      Executed (.addIndex x)
        ⟨advance { m with i := m.i + (m.v.read x).setWidth 12 }, source, false, false⟩
  | pointAtGlyph (x : Register) :
      Executed (.pointAtGlyph x)
        ⟨advance { m with i := Font.glyphAddress ((m.v.read x).setWidth 4) }, source, false, false⟩
  | storeDecimal (x : Register) (hi : ¬Memory.size < m.i.toNat + 3) :
      Executed (.storeDecimal x)
        ⟨advance { m with memory := m.memory.store m.i.toNat (decimalDigits (m.v.read x)) },
          source, false, false⟩
  | storeRegisters (x : Register) (hi : ¬Memory.size < m.i.toNat + x.toNat + 1) :
      Executed (.storeRegisters x)
        ⟨advance
          { m with
            memory := m.memory.store m.i.toNat (m.v.upTo x)
            i := m.i + x.setWidth 12 + 1 }, source, false, false⟩
  | loadRegisters (x : Register) (hi : ¬Memory.size < m.i.toNat + x.toNat + 1) :
      Executed (.loadRegisters x)
        ⟨advance
          { m with
            v := m.v.fill 0 (m.memory.slice m.i.toNat (x.toNat + 1))
            i := m.i + x.setWidth 12 + 1 }, source, false, false⟩

end Rules

/-! ### Numbers and bytes

An instruction computes with numbers, and a register takes a number only if it is a byte.  Each
number that an instruction stores is the value of a byte.
-/

theorem flagValue_eq (b : Bool) : flagValue b = (flagByte b).toNat := by
  cases b <;> rfl

theorem toNat_add_mod (a b : Byte) : ((a.toNat : Int) + b.toNat) % 256 = (a + b).toNat := by
  rw [BitVec.toNat_add]
  rfl

theorem toNat_sub_mod (a b : Byte) : ((a.toNat : Int) - b.toNat) % 256 = (a - b).toNat := by
  have ha := a.isLt
  have hb := b.isLt
  rw [BitVec.toNat_sub]
  omega

theorem toNat_shiftLeft_and (b : Byte) : b.toNat <<< 1 &&& 0xFF = (b <<< 1).toNat := by
  rw [BitVec.toNat_shiftLeft]
  exact Nat.and_two_pow_sub_one_eq_mod _ 8

theorem toNat_and_one (b : Byte) : b.toNat &&& 1 = (flagByte (b.getLsbD 0)).toNat := by
  rw [Nat.and_one_is_mod, BitVec.getLsbD, Nat.testBit_zero]
  rcases Nat.mod_two_eq_zero_or_one b.toNat with h | h <;> rw [h] <;> rfl

theorem toNat_shiftRight_and_one (b : Byte) :
    b.toNat >>> 7 &&& 1 = (flagByte b.msb).toNat := by
  have hb := b.isLt
  rw [Nat.and_one_is_mod, BitVec.msb_eq_decide, Nat.shiftRight_eq_div_pow]
  by_cases h : 2 ^ 7 ≤ b.toNat
  · rw [decide_eq_true h]
    show _ = 1
    omega
  · rw [decide_eq_false h]
    show _ = 0
    omega

/-- The digits are bytes already. -/
theorem map_lowByte_digits (b : Byte) :
    [(b.toNat : Int) / 100, (b.toNat : Int) / 10 % 10, (b.toNat : Int) % 100 % 10].map
      Memory.lowByte = decimalDigits b := by
  have hlast : (b.toNat : Int) % 100 % 10 = (b.toNat % 10 : Nat) := by omega
  rw [hlast]
  rfl

theorem setRegister_byte (m : Machine) (x : Register) (b : Byte) :
    m.setRegister x.toNat b.toNat = .ok { m with v := m.v.write x b } := by
  have hx : x.toNat < 16 := x.isLt
  have hb : b.toNat < 256 := b.isLt
  have hposition : isPosition x.toNat = true := by
    simp only [isPosition, Bool.and_eq_true, decide_eq_true_iff]
    omega
  have hentry : position? 16 x.toNat = some ⟨x.toNat, hx⟩ := dif_pos (by omega)
  have hbyte : BitVec.ofInt 8 b.toNat = b := by
    rw [BitVec.ofInt_natCast, BitVec.ofNat_toNat, BitVec.setWidth_eq]
  rw [setRegister, hposition, hentry, if_neg (by decide), if_neg (by omega)]
  simp only [hbyte]
  rfl

theorem ofInt_add (a : Address) (n : Nat) : BitVec.ofInt 12 (a.toNat + n) = a + n := by
  rw [BitVec.ofInt_add, BitVec.ofInt_natCast, BitVec.ofInt_natCast, BitVec.ofNat_toNat,
    BitVec.setWidth_eq]
  rfl

theorem setPc_toNat (m : Machine) (a : Address) : m.setPc a.toNat = { m with pc := a } := by
  rw [setPc, BitVec.ofInt_natCast, BitVec.ofNat_toNat, BitVec.setWidth_eq]

theorem setPc_add (m : Machine) (a : Address) (n : Nat) :
    m.setPc (a.toNat + n) = { m with pc := a + n } := by
  rw [setPc, ofInt_add]

theorem setPc_add_two (m : Machine) (a : Address) :
    m.setPc (a.toNat + 2) = { m with pc := a + 2 } :=
  setPc_add m a 2

theorem setPc_add_byte (m : Machine) (b : Byte) (a : Address) :
    m.setPc (b.toNat + a.toNat) = { m with pc := b.setWidth 12 + a } := by
  rw [setPc, BitVec.ofInt_add, BitVec.ofInt_natCast, BitVec.ofInt_natCast, BitVec.ofNat_toNat,
    BitVec.ofNat_toNat, BitVec.setWidth_eq]

/-- The index register moves past the registers `V0` to `Vx`. -/
theorem setIndex_past (m : Machine) (x : Register) :
    m.setIndex (m.i.toNat + x.toNat + 1) = { m with i := m.i + x.setWidth 12 + 1 } := by
  rw [setIndex, BitVec.ofInt_add, BitVec.ofInt_add, BitVec.ofInt_natCast, BitVec.ofInt_natCast,
    BitVec.ofNat_toNat, BitVec.ofNat_toNat, BitVec.setWidth_eq]
  rfl

theorem toNat_beq (a b : Byte) : (a.toNat == b.toNat) = (a == b) := by
  rw [Bool.eq_iff_iff, beq_iff_eq, beq_iff_eq, BitVec.toNat_inj]

theorem toNat_bne (a b : Byte) : (a.toNat != b.toNat) = (a != b) := by
  rw [bne, bne, toNat_beq]

theorem lowKey_toNat (b : Byte) : Keypad.lowKey b.toNat = b.setWidth 4 := by
  rw [Keypad.lowKey, BitVec.ofInt_natCast, BitVec.ofNat_toNat]

theorem lowDigit_toNat (b : Byte) : Font.lowDigit b.toNat = b.setWidth 4 := by
  rw [Font.lowDigit, BitVec.ofInt_natCast, BitVec.ofNat_toNat]

/-! ### Steps of an instruction -/

namespace Execution

/-- A register takes every byte. -/
theorem store_byte (x : Register) (b : Byte) :
    store x b.toNat = update fun m => { m with v := m.v.write x b } := by
  funext effect
  rw [store, get_bind]
  simp only [setRegister_byte]
  rfl

theorem skipWhen_eq (b : Bool) : skipWhen b = update (·.skipIf b) := by
  cases b
  · exact congrArg update (funext fun m => setPc_add m m.pc 2)
  · exact congrArg update (funext fun m => setPc_add m m.pc 4)

theorem storeShift_byte (rules : Rules) (x y : Register) (b : Byte) :
    storeShift rules x y b.toNat = update fun m =>
      { m with
        v := if rules.shiftsBoth then (m.v.write x b).write y b else m.v.write x b } := by
  simp only [storeShift, store_byte]
  cases rules.shiftsBoth <;> rfl

/-- A block is refused before anything of it is written. -/
theorem writeBlock_run (values : List Byte) (effect : Effect) :
    onMachine (onMemory (Memory.writeBlock effect.machine.i.toNat values)) effect =
      if 1 ≤ values.length ∧ Memory.size < effect.machine.i.toNat + values.length then
        .error (.bare (.memoryAccess (effect.machine.i.toNat + values.length - 1 : Nat))) effect
      else
        let m := effect.machine
        .ok () { effect with
          machine := { m with memory := m.memory.store m.i.toNat values } } := by
  simp only [onMachine, onMemory, onPart, Memory.writeBlock_address]
  by_cases h : 1 ≤ values.length ∧ Memory.size < effect.machine.i.toNat + values.length
  · simp only [if_pos h]
    rfl
  · simp only [if_neg h]

theorem readBlock_run (count : Nat) (effect : Effect) :
    readBlock count effect =
      if 1 ≤ count ∧ Memory.size < effect.machine.i.toNat + count then
        .error (.bare (.memoryAccess (effect.machine.i.toNat + count - 1 : Nat))) effect
      else .ok (effect.machine.memory.slice effect.machine.i.toNat count) effect := by
  rw [readBlock, get_bind]
  simp only [Memory.readBlock_address]
  by_cases h : 1 ≤ count ∧ Memory.size < effect.machine.i.toNat + count
  · simp only [if_pos h]
    rfl
  · simp only [if_neg h]
    rfl

theorem pushReturn_run (rules : Rules) (address : Int) (effect : Effect) :
    onMachine (pushReturn rules address) effect =
      let m := effect.machine
      if rules.stackDepth ≤ m.stack.length then
        .error (m.currentFault (.stackOverflow m.stack.length)) effect
      else .ok () { effect with
        machine := { m with stack := BitVec.ofInt 12 address :: m.stack } } := by
  simp only [onMachine, onPart, pushReturn, get_bind]
  by_cases h : rules.stackDepth ≤ effect.machine.stack.length
  · simp only [if_pos h]
    rfl
  · simp only [if_neg h]
    rfl

theorem popReturn_run (effect : Effect) :
    onMachine popReturn effect =
      let m := effect.machine
      match m.stack with
      | [] => .error (m.currentFault .stackUnderflow) effect
      | address :: rest => .ok address { effect with machine := { m with stack := rest } } := by
  simp only [onMachine, onPart, popReturn, get_bind]
  cases effect.machine.stack <;> rfl

end Execution

/-! ### The steps follow the rules -/

open Execution

variable {rules : Rules} {source : ByteSource} {m : Machine}

/-- The fault that a refused instruction raises: memory does not say where it arose. -/
def raised (m : Machine) : Cause → Fault
  | .memoryAccess target => .bare (.memoryAccess target)
  | cause => m.currentFault cause

theorem execute_of_error {ins : Instruction} {effect effect' : Effect} {fault : Fault}
    (h : perform rules ins effect = .error fault effect') :
    execute rules ins effect = .error fault effect' := by
  rw [execute, get_bind, bind_of_error h]

theorem execute_of_control (ins : Instruction) (h : ins.operation.isControlFlow = true)
    (effect : Effect) : execute rules ins effect = perform rules ins effect := by
  rw [execute, get_bind]
  simp only [h]
  cases hp : perform rules ins effect with
  | error fault effect' => rw [bind_of_error hp]
  | ok _ effect' =>
      rw [bind_of_ok hp]
      rfl

theorem execute_of_moved (ins : Instruction) (hins : ins.operation.isControlFlow = false)
    {effect effect' : Effect} (h : perform rules ins effect = .ok () effect') :
    execute rules ins effect = .ok ()
      { effect' with
        machine := { effect'.machine with pc := effect.machine.pc + 2 } } := by
  have hpc : BitVec.ofInt 12 (effect.machine.pc.toNat + 2) = effect.machine.pc + 2 :=
    ofInt_add effect.machine.pc 2
  rw [execute, get_bind, bind_of_ok h, hins, ← hpc]
  rfl

/-- **Every instruction is refused or executed.** -/
theorem refused_or_executed (rules : Rules) (source : ByteSource) (m : Machine)
    (ins : Instruction) :
    (∃ cause, Refused rules m ins cause) ∨ ∃ effect, Executed rules source m ins effect := by
  cases ins with
  | ret =>
      cases hs : m.stack with
      | nil => exact .inl ⟨_, .ret hs⟩
      | cons address rest => exact .inr ⟨_, .ret hs⟩
  | call nnn =>
      rcases Nat.lt_or_ge m.stack.length rules.stackDepth with hs | hs
      · exact .inr ⟨_, .call nnn hs⟩
      · exact .inl ⟨_, .call nnn hs⟩
  | draw x y n =>
      by_cases hi : 1 ≤ n.toNat ∧ Memory.size < m.i.toNat + n.toNat
      · exact .inl ⟨_, .draw x y n hi⟩
      · exact .inr ⟨_, .draw x y n hi⟩
  | storeDecimal x =>
      by_cases hi : Memory.size < m.i.toNat + 3
      · exact .inl ⟨_, .storeDecimal x hi⟩
      · exact .inr ⟨_, .storeDecimal x hi⟩
  | storeRegisters x =>
      by_cases hi : Memory.size < m.i.toNat + x.toNat + 1
      · exact .inl ⟨_, .storeRegisters x hi⟩
      · exact .inr ⟨_, .storeRegisters x hi⟩
  | loadRegisters x =>
      by_cases hi : Memory.size < m.i.toNat + x.toNat + 1
      · exact .inl ⟨_, .loadRegisters x hi⟩
      · exact .inr ⟨_, .loadRegisters x hi⟩
  | awaitKey x =>
      cases hk : m.keypad.firstPressed with
      | none => exact .inr ⟨_, .wait x hk⟩
      | some key => exact .inr ⟨_, .awaitKey x hk⟩
  | _ => exact .inr ⟨_, by constructor⟩

/-- **An instruction that is refused has written nothing before.** -/
theorem perform_of_refused {ins : Instruction} {cause : Cause} (effect : Effect)
    (h : Refused rules effect.machine ins cause) :
    perform rules ins effect = .error (effect.machine.raised cause) effect := by
  cases h with
  | ret hs =>
      have hpop : onMachine popReturn effect =
          .error (effect.machine.currentFault .stackUnderflow) effect := by
        simp only [popReturn_run, hs]
      simp only [perform, get_bind]
      exact bind_of_error hpop _
  | call nnn hs =>
      simp only [perform, get_bind]
      exact bind_of_error ((pushReturn_run ..).trans (if_pos hs)) _
  | draw x y n hi =>
      simp only [perform, get_bind]
      exact bind_of_error ((readBlock_run ..).trans (if_pos hi)) _
  | storeDecimal x hi =>
      have hlen : (decimalDigits (effect.machine.v.read x)).length = 3 := rfl
      simp only [perform, get_bind, Memory.writeValues, map_lowByte_digits]
      rw [writeBlock_run, hlen, if_pos ⟨by decide, hi⟩]
      rfl
  | storeRegisters x hi =>
      simp only [perform, get_bind]
      refine bind_of_error ((writeBlock_run ..).trans ?_) _
      rw [Registers.length_upTo, if_pos ⟨by omega, by omega⟩]
      rfl
  | loadRegisters x hi =>
      simp only [perform, get_bind]
      refine bind_of_error ((readBlock_run ..).trans ?_) _
      rw [if_pos ⟨by omega, by omega⟩]
      rfl

theorem execute_of_executed {ins : Instruction} {effect : Effect}
    (h : Executed rules source m ins effect) :
    execute rules ins (.start source m) = .ok () effect := by
  cases h with
  | @ret address rest hs =>
      have hpop : onMachine popReturn (.start source m) =
          .ok address (.start source { m with stack := rest }) := by
        simp only [popReturn_run, Effect.start, hs]
      simp only [execute_of_control .ret rfl, perform, get_bind, setPc_toNat]
      rw [bind_of_ok hpop]
      rfl
  | call nnn hs =>
      have hpush : onMachine (pushReturn rules (m.pc.toNat + 2)) (.start source m) =
          .ok () (.start source { m with stack := (m.pc + 2) :: m.stack }) := by
        have haddress : BitVec.ofInt 12 (m.pc.toNat + 2) = m.pc + 2 := ofInt_add m.pc 2
        rw [pushReturn_run, haddress]
        exact if_neg (Nat.not_le.mpr hs)
      simp only [execute_of_control (.call nnn) rfl, perform, get_bind, setPc_toNat]
      exact bind_of_ok hpush _
  | draw x y n hi =>
      have hperform : perform rules (.draw x y n) (.start source m) = .ok ()
          ⟨{ m.withSprite x y (m.memory.slice m.i.toNat n.toNat) with pc := m.pc },
            source, false, true⟩ := by
        simp only [perform, get_bind, flagValue_eq, store_byte]
        exact bind_of_ok ((readBlock_run n.toNat (.start source m)).trans (if_neg hi)) _
      exact execute_of_moved _ rfl hperform
  | storeDecimal x hi =>
      have hperform : perform rules (.storeDecimal x) (.start source m) = .ok () (.start source
          { m with memory := m.memory.store m.i.toNat (decimalDigits (m.v.read x)) }) := by
        simp only [perform, get_bind, Memory.writeValues, Effect.start, map_lowByte_digits]
        exact (writeBlock_run _ (.start source m)).trans (if_neg fun h => hi h.2)
      exact execute_of_moved _ rfl hperform
  | storeRegisters x hi =>
      have hwrite : onMachine (onMemory (Memory.writeBlock m.i.toNat (m.v.upTo x)))
          (.start source m) =
          .ok () (.start source
            { m with memory := m.memory.store m.i.toNat (m.v.upTo x) }) := by
        refine (writeBlock_run _ (.start source m)).trans (if_neg ?_)
        rw [Registers.length_upTo]
        exact fun h => hi h.2
      have hperform : perform rules (.storeRegisters x) (.start source m) = .ok () (.start source
          { m with
            memory := m.memory.store m.i.toNat (m.v.upTo x)
            i := m.i + x.setWidth 12 + 1 }) := by
        simp only [perform, get_bind, setIndex_past]
        exact bind_of_ok hwrite _
      exact execute_of_moved _ rfl hperform
  | loadRegisters x hi =>
      have hperform : perform rules (.loadRegisters x) (.start source m) = .ok () (.start source
          { m with
            v := m.v.fill 0 (m.memory.slice m.i.toNat (x.toNat + 1))
            i := m.i + x.setWidth 12 + 1 }) := by
        have hread := (readBlock_run (x.toNat + 1) (.start source m)).trans
          (if_neg fun h => hi h.2)
        simp only [perform, get_bind, setIndex_past]
        exact bind_of_ok hread _
      exact execute_of_moved _ rfl hperform
  | wait x hk =>
      simp only [execute_of_control (.awaitKey x) rfl, perform, get_bind, Effect.start, hk]
      rfl
  | @awaitKey x key hk =>
      have hbyte : key.toNat = (key.setWidth 8).toNat := by
        have hkey : key.toNat < 16 := key.isLt
        rw [BitVec.toNat_setWidth]
        omega
      simp only [execute_of_control (.awaitKey x) rfl, perform, get_bind, Effect.start, hk, hbyte,
        store_byte, setPc_add_two]
      rfl
  | shiftRight x y =>
      simp only [execute, perform, storeShift_byte, ← BitVec.toNat_ushiftRight, toNat_and_one,
        store_byte, setPc_add_two]
      rfl
  | shiftLeft x y =>
      simp only [execute, perform, storeShift_byte, toNat_shiftLeft_and, toNat_shiftRight_and_one,
        store_byte, setPc_add_two]
      rfl
  | jump nnn =>
      simp only [execute_of_control (.jump nnn) rfl, perform, get_bind, setPc_toNat]
      rfl
  | jumpFrom nnn =>
      simp only [execute_of_control (.jumpFrom nnn) rfl, perform, get_bind, setPc_add_byte]
      rfl
  | skipIfByte | skipUnlessByte | skipIfSame | skipUnlessSame | skipIfKey | skipUnlessKey =>
      rw [execute_of_control _ rfl]
      simp only [perform, get_bind, skipWhen_eq, toNat_beq, toNat_bne, lowKey_toNat]
      rfl
  | _ =>
      simp only [execute, perform, toNat_add_mod, toNat_sub_mod, Int.natCast_add,
        ← BitVec.toNat_or, ← BitVec.toNat_and, ← BitVec.toNat_xor, flagValue_eq, store_byte,
        lowDigit_toNat]
      simp only [setPc, setIndex, setDelay, setSound, BitVec.ofInt_add, BitVec.ofInt_natCast,
        BitVec.ofNat_toNat, BitVec.setWidth_eq]
      rfl

theorem execute_of_refused {ins : Instruction} {cause : Cause} (effect : Effect)
    (h : Refused rules effect.machine ins cause) :
    execute rules ins effect = .error (effect.machine.raised cause) effect :=
  execute_of_error (perform_of_refused effect h)

/-- Whoever raises a fault while an instruction is performed does so before the first write. -/
theorem effect_of_perform_error {ins : Instruction} {fault : Fault} {effect : Effect}
    (h : perform rules ins (.start source m) = .error fault effect) :
    effect = .start source m := by
  rcases refused_or_executed rules source m ins with ⟨cause, hrefused⟩ | ⟨after, hexecuted⟩
  · rw [perform_of_refused (.start source m) hrefused] at h
    cases h
    rfl
  · have hok := execute_of_executed hexecuted
    rw [execute_of_error h] at hok
    cases hok

/-- **What an instruction is refused for**, and that nothing was written before. -/
theorem execute_eq_error_iff {ins : Instruction} {fault : Fault} {effect : Effect} :
    execute rules ins (.start source m) = .error fault effect ↔
      ∃ cause, Refused rules m ins cause ∧ fault = m.raised cause ∧ effect = .start source m := by
  constructor
  · intro h
    rcases refused_or_executed rules source m ins with ⟨cause, hrefused⟩ | ⟨after, hexecuted⟩
    · rw [execute_of_refused (.start source m) hrefused] at h
      cases h
      exact ⟨cause, hrefused, rfl, rfl⟩
    · rw [execute_of_executed hexecuted] at h
      cases h
  · rintro ⟨cause, hrefused, rfl, rfl⟩
    exact execute_of_refused (.start source m) hrefused

/-- **What an executed instruction does.** -/
theorem execute_eq_ok_iff {ins : Instruction} {effect : Effect} :
    execute rules ins (.start source m) = .ok () effect ↔ Executed rules source m ins effect := by
  constructor
  · intro h
    rcases refused_or_executed rules source m ins with ⟨cause, hrefused⟩ | ⟨after, hexecuted⟩
    · rw [execute_of_refused (.start source m) hrefused] at h
      cases h
    · rw [execute_of_executed hexecuted] at h
      cases h
      exact hexecuted
  · exact execute_of_executed

end Machine
end ChipEight
