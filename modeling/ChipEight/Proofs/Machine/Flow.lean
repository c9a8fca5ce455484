/-
Where execution continues.

The program counter is written in two places.  Some instructions decide themselves where execution
continues; for all others the cycle goes on to the next word.  A table of the operations says which
instructions are of the first kind, and the table is kept apart from the instructions.  If the two
disagreed, an instruction would be moved on twice or not at all.

They agree: an instruction that is not in the table leaves the program counter where it was, and one
that is in the table has the last word.  So where the machine stands after a cycle depends on the
word alone, by the rules that `Flow` lists, and the only other thing that matters is what a skip
compares, what a jump adds, the top of the stack, and whether a key is down.
-/
import ChipEight.Proofs.Machine.Cycle

namespace ChipEight

namespace Keypad

theorem mem_pressedKeys {k : Keypad} {key : Nibble} :
    key ∈ k.pressedKeys ↔ k.isPressed key = true := by
  simp only [pressedKeys, List.mem_filterMap, List.mem_range]
  constructor
  · rintro ⟨n, -, hn⟩
    split at hn
    · rename_i hdown
      exact Option.some.inj hn ▸ hdown
    · cases hn
  · intro hdown
    refine ⟨key.toNat, key.isLt, ?_⟩
    rw [BitVec.ofNat_toNat, BitVec.setWidth_eq, if_pos hdown]

/-- The first key that is down is one. -/
theorem isPressed_of_firstPressed {k : Keypad} {key : Nibble} (h : k.firstPressed = some key) :
    k.isPressed key = true :=
  mem_pressedKeys.mp (List.mem_of_mem_head? (Option.mem_def.mpr h))

/-- There is a first key unless no key is down. -/
theorem firstPressed_eq_none_iff (k : Keypad) :
    k.firstPressed = none ↔ ∀ key, k.isPressed key = false := by
  rw [firstPressed, List.head?_eq_none_iff, List.eq_nil_iff_forall_not_mem]
  exact forall_congr' fun key => by rw [mem_pressedKeys, Bool.not_eq_true]

end Keypad

namespace Machine

variable {rules : Rules} {source : ByteSource} {m m' : Machine}

/-! ### The table and the instructions -/

/-- It is settled who moves the program counter on: the instruction or the cycle, and not both. -/
structure MovedOnce (rules : Rules) (source : ByteSource) (m : Machine) (ins : Instruction) :
    Prop where
  /-- Not in the table, the instruction leaves the program counter where it is. -/
  left : ins.operation.isControlFlow = false →
    ∀ effect, perform rules ins (.start source m) = .ok () effect → effect.machine.pc = m.pc
  /-- The cycle goes on to the next word then. -/
  moved : ins.operation.isControlFlow = false →
    ∀ effect, execute rules ins (.start source m) = .ok () effect →
      effect.machine.pc = m.pc + 2
  /-- In the table, the instruction has the last word. -/
  decided : ins.operation.isControlFlow = true →
    execute rules ins (.start source m) = perform rules ins (.start source m)

theorem pc_of_setRegister {index value : Int} (h : m.setRegister index value = .ok m') :
    m'.pc = m.pc := by
  rw [setRegister] at h
  repeat' split at h
  all_goals cases h
  rfl

/-- A part of a cycle that leaves the program counter where it is, whether it is refused or not. -/
def StaysPut {α : Type} (part : Execution α) : Prop :=
  ∀ effect, (part effect).state.machine.pc = effect.machine.pc

namespace StaysPut

open Execution

theorem bind {α β : Type} {part : Execution α} {next : α → Execution β} (hpart : StaysPut part)
    (hnext : ∀ a, StaysPut (next a)) : StaysPut (part >>= next) := by
  intro effect
  have hpc := hpart effect
  cases h : part effect with
  | error fault effect' =>
      rw [bind_of_error h]
      rw [h] at hpc
      exact hpc
  | ok a effect' =>
      rw [bind_of_ok h, hnext a effect']
      rw [h] at hpc
      exact hpc

theorem update {change : Machine → Machine} (h : ∀ m, (change m).pc = m.pc) :
    StaysPut (update change) :=
  fun effect => h effect.machine

theorem store (x : Register) (value : Int) : StaysPut (store x value) := by
  intro effect
  rw [Execution.store, get_bind]
  cases hset : effect.machine.setRegister x.toNat value with
  | error e => rfl
  | ok machine => exact pc_of_setRegister hset

theorem storeShift (x y : Register) (value : Int) : StaysPut (storeShift rules x y value) := by
  refine .bind (.store x value) fun _ => ?_
  cases rules.shiftsBoth with
  | true => exact .store y value
  | false => exact fun _ => rfl

theorem readBlock (count : Int) : StaysPut (readBlock count) := by
  intro effect
  rw [Execution.readBlock, get_bind]
  cases effect.machine.memory.readBlock effect.machine.i.toNat count <;> rfl

/-- Memory is not where the program counter is kept. -/
theorem onMemory {α : Type} (request : EStateM OutOfRange Memory α) :
    StaysPut (onMachine (onMemory request)) := by
  intro effect
  simp only [onMachine, Machine.onMemory, onPart]
  cases request effect.machine.memory <;> rfl

end StaysPut

/-- An instruction that is not in the table leaves the program counter where it is. -/
theorem staysPut_perform {ins : Instruction} (hins : ins.operation.isControlFlow = false) :
    StaysPut (perform rules ins) := by
  refine .bind (fun _ => rfl) fun _ => ?_
  cases ins with
  | ret | jump | call | jumpFrom | skipIfByte | skipUnlessByte | skipIfSame | skipUnlessSame
  | skipIfKey | skipUnlessKey | awaitKey => cases hins
  | loadByte | addByte | copy | bitOr | bitAnd | bitXor | readDelay => exact .store _ _
  | add | sub | subFrom => exact .bind (.store _ _) fun _ => .store _ _
  | shiftRight | shiftLeft => exact .bind (.storeShift _ _ _) fun _ => .store _ _
  | random x nn => exact .bind (fun _ => rfl) fun _ => .store _ _
  | draw x y n =>
      refine .bind (.readBlock _) fun sprite => .bind (fun _ => rfl) fun collision => ?_
      exact .bind (.store _ _) fun _ _ => rfl
  | storeDecimal x => exact .onMemory _
  | storeRegisters x => exact .bind (.onMemory _) fun _ _ => rfl
  | loadRegisters x => exact .bind (.readBlock _) fun _ _ => rfl
  | _ => exact fun _ => rfl

/-- The cycle moves on every other instruction, once. -/
theorem pc_of_execute {ins : Instruction} {effect : Effect}
    (hins : ins.operation.isControlFlow = false)
    (h : execute rules ins (.start source m) = .ok () effect) :
    effect.machine.pc = m.pc + 2 := by
  cases hperform : perform rules ins (.start source m) with
  | error fault effect' =>
      rw [execute_of_error hperform] at h
      cases h
  | ok _ effect' =>
      rw [execute_of_moved ins hins hperform] at h
      cases h
      rfl

theorem movedOnce (rules : Rules) (source : ByteSource) (m : Machine) (ins : Instruction) :
    MovedOnce rules source m ins where
  left hins effect hperform := by
    have hstays : StaysPut (perform rules ins) := staysPut_perform hins
    have hpc := hstays (.start source m)
    rw [hperform] at hpc
    exact hpc
  moved hins _ h := pc_of_execute hins h
  decided hins := execute_of_control ins hins _

/-! ### Where the machine stands -/

/-- The second machine stands `n` bytes further on; positions wrap around at the end of memory. -/
def MovedOn (m m' : Machine) (n : Nat) : Prop := m'.pc.toNat = (m.pc.toNat + n) % Memory.size

/-- The word is a skip, and this is its condition. -/
inductive SkipsIf (m : Machine) : Word → Prop → Prop
  | byte (x : Register) (nn : Byte) : SkipsIf m (.withByte 0x3 x nn) (m.v.read x = nn)
  | notByte (x : Register) (nn : Byte) : SkipsIf m (.withByte 0x4 x nn) (m.v.read x ≠ nn)
  | same (x y : Register) : SkipsIf m (.ofNibbles 0x5 x y 0x0) (m.v.read x = m.v.read y)
  | different (x y : Register) : SkipsIf m (.ofNibbles 0x9 x y 0x0) (m.v.read x ≠ m.v.read y)
  /-- The low digit of the register names the key. -/
  | key (x : Register) {key : Nibble} (hkey : key.toNat = (m.v.read x).toNat % 16) :
      SkipsIf m (.withByte 0xE x 0x9E) (m.keypad.isPressed key = true)
  | notKey (x : Register) {key : Nibble} (hkey : key.toNat = (m.v.read x).toNat % 16) :
      SkipsIf m (.withByte 0xE x 0xA1) (m.keypad.isPressed key = false)

/-- The words whose instructions decide where execution continues. -/
inductive Decides (m : Machine) : Word → Prop
  | ret : Decides m 0x00EE
  | jump (nnn : Address) : Decides m (.withAddress 0x1 nnn)
  | call (nnn : Address) : Decides m (.withAddress 0x2 nnn)
  | jumpFrom (nnn : Address) : Decides m (.withAddress 0xB nnn)
  | skip {w : Word} {condition : Prop} (h : SkipsIf m w condition) : Decides m w
  | awaitKey (x : Register) : Decides m (.withByte 0xF x 0x0A)

/-- Where a cycle leaves the machine: the second machine is the first one after it. -/
structure Flow (m m' : Machine) (cycle : Cycle) : Prop where
  address : cycle.address = m.pc
  word : cycle.word = m.memory.wordAt m.pc.toNat
  unknown : cycle.word.operation = .unknown → m'.pc = m.pc
  jump : ∀ nnn, cycle.word = .withAddress 0x1 nnn ∨ cycle.word = .withAddress 0x2 nnn →
    m'.pc = nnn
  jumpFrom : ∀ nnn, cycle.word = .withAddress 0xB nnn →
    m'.pc.toNat = ((m.v.read 0).toNat + nnn.toNat) % Memory.size
  ret : cycle.word = 0x00EE → m.stack = m'.pc :: m'.stack
  skip : ∀ condition, SkipsIf m cycle.word condition →
    (condition → MovedOn m m' 4) ∧ (¬condition → MovedOn m m' 2)
  /-- Only a cycle that waits for a key is not moved on, and it says so. -/
  waiting_iff : cycle.waiting = true ↔
    (∃ x, cycle.word = .withByte 0xF x 0x0A) ∧ ∀ key, m.keypad.isPressed key = false
  wait : cycle.waiting = true → m'.pc = m.pc
  awaitKey : (∃ x, cycle.word = .withByte 0xF x 0x0A) → cycle.waiting = false → MovedOn m m' 2
  other : cycle.word.operation ≠ .unknown → ¬Decides m cycle.word → MovedOn m m' 2
  /-- The table lists the words that decide. -/
  table : cycle.word.operation.isControlFlow = true ↔ Decides m cycle.word

variable {cycle : Cycle}

theorem movedOn_two (h : m'.pc = m.pc + 2) : MovedOn m m' 2 := by
  rw [MovedOn, h, BitVec.toNat_add]
  rfl

theorem movedOn_skipIf {b : Bool} {condition : Prop} (h : b = true ↔ condition) :
    (condition → MovedOn m (m.skipIf b) 4) ∧ (¬condition → MovedOn m (m.skipIf b) 2) := by
  constructor
  · intro hc
    obtain rfl : b = true := h.mpr hc
    exact BitVec.toNat_add _ _
  · intro hc
    obtain rfl : b = false := Bool.eq_false_iff.mpr (mt h.mp hc)
    exact BitVec.toNat_add _ _

/-- A skip is told by what it compares. -/
theorem skip_of_executed {b : Bool} {condition : Prop}
    (h : (m.step rules source).result = .ok cycle) (ins : Instruction)
    (hw : m.nextWord = ins.encode)
    (hins : ∀ effect, Executed rules source (m.latch m.nextWord) ins effect →
      effect.machine = (m.latch m.nextWord).skipIf b)
    (hb : b = true ↔ condition) :
    (condition → MovedOn m (m.step rules source).machine 4) ∧
      (¬condition → MovedOn m (m.step rules source).machine 2) := by
  obtain ⟨effect, he, hstep⟩ := executed_of_step ins hw h
  rw [hstep]
  show (_ → MovedOn m effect.machine 4) ∧ (_ → MovedOn m effect.machine 2)
  rw [hins effect he]
  exact movedOn_skipIf (m := m.latch m.nextWord) hb

/-- The key of a register is the one that its low digit names. -/
theorem isPressed_low {b : Byte} {key : Nibble} (hkey : key.toNat = b.toNat % 16) (k : Keypad) :
    k.isPressed (b.setWidth 4) = k.isPressed key := by
  have heq : b.setWidth 4 = key :=
    BitVec.eq_of_toNat_eq (by rw [BitVec.toNat_setWidth, hkey])
  rw [heq]

theorem skip_of_step (h : (m.step rules source).result = .ok cycle) {condition : Prop}
    (hskip : SkipsIf m m.nextWord condition) :
    (condition → MovedOn m (m.step rules source).machine 4) ∧
      (¬condition → MovedOn m (m.step rules source).machine 2) := by
  generalize hw : m.nextWord = w at hskip
  cases hskip with
  | byte x nn => exact skip_of_executed h (.skipIfByte x nn) hw (by rintro _ ⟨⟩; rfl) beq_iff_eq
  | notByte x nn =>
      exact skip_of_executed h (.skipUnlessByte x nn) hw (by rintro _ ⟨⟩; rfl) bne_iff_ne
  | same x y => exact skip_of_executed h (.skipIfSame x y) hw (by rintro _ ⟨⟩; rfl) beq_iff_eq
  | different x y =>
      exact skip_of_executed h (.skipUnlessSame x y) hw (by rintro _ ⟨⟩; rfl) bne_iff_ne
  | key x hkey =>
      refine skip_of_executed h (.skipIfKey x) hw (by rintro _ ⟨⟩; rfl) ?_
      rw [← isPressed_low hkey]
      exact Iff.rfl
  | notKey x hkey =>
      refine skip_of_executed h (.skipUnlessKey x) hw (by rintro _ ⟨⟩; rfl) ?_
      rw [← isPressed_low hkey]
      exact iff_of_eq (Bool.not_eq_true' _)

theorem isControlFlow_encode (ins : Instruction) (h : ins.operation.isControlFlow = true) :
    ins.encode.operation.isControlFlow = true := by
  rw [Word.operation_encode, h]

/-- The table lists the words that decide. -/
theorem isControlFlow_iff (m : Machine) (w : Word) :
    w.operation.isControlFlow = true ↔ Decides m w := by
  constructor
  · intro h
    cases hd : Instruction.decode w with
    | none =>
        rw [(Word.operation_eq_unknown_iff w).mpr hd] at h
        cases h
    | some ins =>
        obtain rfl := Instruction.encode_of_decode hd
        rw [Word.operation_encode] at h
        cases ins with
        | ret => exact .ret
        | jump nnn => exact .jump nnn
        | call nnn => exact .call nnn
        | jumpFrom nnn => exact .jumpFrom nnn
        | skipIfByte x nn => exact .skip (.byte x nn)
        | skipUnlessByte x nn => exact .skip (.notByte x nn)
        | skipIfSame x y => exact .skip (.same x y)
        | skipUnlessSame x y => exact .skip (.different x y)
        | skipIfKey x => exact .skip (.key x (BitVec.toNat_setWidth 4 _))
        | skipUnlessKey x => exact .skip (.notKey x (BitVec.toNat_setWidth 4 _))
        | awaitKey x => exact .awaitKey x
        | _ => cases h
  · intro h
    cases h with
    | ret => exact isControlFlow_encode .ret rfl
    | jump nnn => exact isControlFlow_encode (.jump nnn) rfl
    | call nnn => exact isControlFlow_encode (.call nnn) rfl
    | jumpFrom nnn => exact isControlFlow_encode (.jumpFrom nnn) rfl
    | awaitKey x => exact isControlFlow_encode (.awaitKey x) rfl
    | skip hskip =>
        cases hskip with
        | byte x nn => exact isControlFlow_encode (.skipIfByte x nn) rfl
        | notByte x nn => exact isControlFlow_encode (.skipUnlessByte x nn) rfl
        | same x y => exact isControlFlow_encode (.skipIfSame x y) rfl
        | different x y => exact isControlFlow_encode (.skipUnlessSame x y) rfl
        | key x hkey => exact isControlFlow_encode (.skipIfKey x) rfl
        | notKey x hkey => exact isControlFlow_encode (.skipUnlessKey x) rfl

/-! ### The rules -/

theorem pc_of_unknown (h : (m.step rules source).result = .ok cycle)
    (hun : m.nextWord.operation = .unknown) : (m.step rules source).machine.pc = m.pc := by
  rw [Word.operation_eq_unknown_iff] at hun
  have hsucceeds := succeeds_of_step h
  generalize m.step rules source = o at hsucceeds ⊢
  cases hsucceeds with
  | unknown hpc hd => rfl
  | executed hpc hw he =>
      rw [Instruction.decode_eq_some_iff.mpr hw.symm] at hun
      cases hun

theorem pc_of_other (h : (m.step rules source).result = .ok cycle)
    (hknown : m.nextWord.operation ≠ .unknown)
    (hother : m.nextWord.operation.isControlFlow = false) :
    MovedOn m (m.step rules source).machine 2 := by
  have hsucceeds := succeeds_of_step h
  generalize m.step rules source = o at hsucceeds ⊢
  cases hsucceeds with
  | unknown hpc hd => exact absurd ((Word.operation_eq_unknown_iff _).mpr hd) hknown
  | executed hpc hw he =>
      rw [hw, Word.operation_encode] at hother
      exact movedOn_two (pc_of_execute (m := m.latch m.nextWord) hother (execute_of_executed he))

/-- A cycle waits exactly if it awaits a key while none is down. -/
theorem waiting_iff (h : (m.step rules source).result = .ok cycle) :
    cycle.waiting = true ↔
      (∃ x, m.nextWord = .withByte 0xF x 0x0A) ∧ ∀ key, m.keypad.isPressed key = false := by
  rw [← Keypad.firstPressed_eq_none_iff]
  constructor
  · intro hwait
    have hsucceeds := succeeds_of_step h
    generalize m.step rules source = o at hsucceeds
    cases hsucceeds with
    | unknown hpc hd => cases hwait
    | executed hpc hw he =>
        cases he with
        | wait x hk => exact ⟨⟨x, hw⟩, hk⟩
        | _ => cases hwait
  · rintro ⟨⟨x, hw⟩, hnone⟩
    obtain ⟨effect, he, hstep⟩ := executed_of_step (.awaitKey x) hw h
    rw [hstep] at h
    obtain rfl := Except.ok.inj h
    cases he with
    | wait x hk => rfl
    | awaitKey x hk =>
        have hsome : m.keypad.firstPressed = some _ := hk
        rw [hnone] at hsome
        cases hsome

theorem pc_of_awaitKey (h : (m.step rules source).result = .ok cycle) {x : Register}
    (hw : m.nextWord = .withByte 0xF x 0x0A) (hwait : cycle.waiting = false) :
    MovedOn m (m.step rules source).machine 2 := by
  obtain ⟨effect, he, hstep⟩ := executed_of_step (.awaitKey x) hw h
  rw [hstep] at h ⊢
  obtain rfl := Except.ok.inj h
  cases he with
  | wait x hk => cases hwait
  | awaitKey x hk => exact movedOn_two rfl

theorem pc_of_jumpFrom (h : (m.step rules source).result = .ok cycle) {nnn : Address}
    (hw : m.nextWord = .withAddress 0xB nnn) :
    (m.step rules source).machine.pc.toNat =
      ((m.v.read 0).toNat + nnn.toNat) % Memory.size := by
  obtain ⟨effect, he, hstep⟩ := executed_of_step (.jumpFrom nnn) hw h
  rw [hstep]
  cases he
  show ((m.v.read 0).setWidth 12 + nnn).toNat = _
  have hlt : (m.v.read 0).toNat < 2 ^ 12 := Nat.lt_trans (m.v.read 0).isLt (by decide)
  rw [BitVec.toNat_add, BitVec.toNat_setWidth, Nat.mod_eq_of_lt hlt]
  rfl

theorem pc_of_jump (h : (m.step rules source).result = .ok cycle) {nnn : Address}
    (hw : m.nextWord = .withAddress 0x1 nnn ∨ m.nextWord = .withAddress 0x2 nnn) :
    (m.step rules source).machine.pc = nnn := by
  rcases hw with hw | hw
  · obtain ⟨effect, he, hstep⟩ := executed_of_step (.jump nnn) hw h
    rw [hstep]
    cases he
    rfl
  · obtain ⟨effect, he, hstep⟩ := executed_of_step (.call nnn) hw h
    rw [hstep]
    cases he
    rfl

theorem pc_of_ret (h : (m.step rules source).result = .ok cycle) (hw : m.nextWord = 0x00EE) :
    m.stack = (m.step rules source).machine.pc :: (m.step rules source).machine.stack := by
  obtain ⟨effect, he, hstep⟩ := executed_of_step .ret hw h
  rw [hstep]
  cases he with
  | ret hs => exact hs

theorem flow_of_step (h : (m.step rules source).result = .ok cycle) :
    Flow m (m.step rules source).machine cycle := by
  obtain ⟨-, haddress, hword⟩ := cycle_of_step h
  constructor
  case address => exact haddress
  case word => exact hword
  case wait =>
    intro hwait
    rw [(step_of_idle h (.inr hwait)).1]
    rfl
  all_goals rw [hword]
  case unknown => exact pc_of_unknown h
  case jump => exact fun nnn => pc_of_jump h
  case jumpFrom => exact fun nnn => pc_of_jumpFrom h
  case ret => exact pc_of_ret h
  case skip => exact fun condition => skip_of_step h
  case waiting_iff => exact waiting_iff h
  case awaitKey =>
    rintro ⟨x, hw⟩ hwait
    exact pc_of_awaitKey h hw hwait
  case other =>
    intro hknown hother
    rw [← isControlFlow_iff, Bool.not_eq_true] at hother
    exact pc_of_other h hknown hother
  case table => exact isControlFlow_iff m m.nextWord

/-- **Every word moves the program counter by one rule, and once.**  A cycle that succeeds reports
the word where it began, and leaves the machine where the rule for that word says.  The table of
operations agrees with the instructions: whatever is not in it leaves the program counter to the
cycle, and whatever is in it is not moved on again. -/
theorem next_position (rules : Rules) (source : ByteSource) (m : Machine) :
    (∀ cycle, (m.step rules source).result = .ok cycle →
      Flow m (m.step rules source).machine cycle) ∧
    ∀ ins, MovedOnce rules source m ins :=
  ⟨fun _ h => flow_of_step h, movedOnce rules source m⟩

end Machine
end ChipEight
