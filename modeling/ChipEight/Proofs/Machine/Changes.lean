/-
What each instruction may change.

`MayChange` lists, word by word, the components that an instruction may change: a result and a flag
among the registers, the bytes of a block that is stored, and a few more.  A component is as small
as it can be here, a single register or a single byte, so that the list leaves nothing open.  Every
cycle that succeeds keeps every component that its word does not list.

The list says where an instruction may write and not what.  What becomes of the stack, which only
grows or shrinks by one entry, and of the source of random bytes, which is no part of the machine,
stands beside it in `Keeps`.
-/
import ChipEight.Proofs.Machine.Flow
import ChipEight.Proofs.Machine.Loading

namespace ChipEight.Machine

/-- A component of a machine: everything but the program counter and the record of the last word,
which every cycle may change. -/
inductive Component where
  | register (r : Register)
  | index
  | delay
  | sound
  | stack
  /-- A byte of memory. -/
  | cell (a : Nat)
  /-- The pixels, and the mark that they have changed. -/
  | display
  | keypad
  deriving DecidableEq

/-- The two machines hold the same in a component. -/
def Same (m m' : Machine) : Component → Prop
  | .register r => m'.v.read r = m.v.read r
  | .index => m'.i = m.i
  | .delay => m'.delay = m.delay
  | .sound => m'.sound = m.sound
  | .stack => m'.stack = m.stack
  | .cell a => m'.memory.byteAt a = m.memory.byteAt a
  | .display => m'.display = m.display
  | .keypad => m'.keypad = m.keypad

/-- The components that the instruction of a word may change. -/
inductive MayChange (rules : Rules) (m : Machine) : Word → Component → Prop
  | loadByte (x : Register) (nn : Byte) : MayChange rules m (.withByte 0x6 x nn) (.register x)
  | addByte (x : Register) (nn : Byte) : MayChange rules m (.withByte 0x7 x nn) (.register x)
  | random (x : Register) (nn : Byte) : MayChange rules m (.withByte 0xC x nn) (.register x)
  | readDelay (x : Register) : MayChange rules m (.withByte 0xF x 0x07) (.register x)
  | awaitKey (x : Register) {key : Nibble} (hkey : m.keypad.isPressed key = true) :
      MayChange rules m (.withByte 0xF x 0x0A) (.register x)
  | loaded (x : Register) {r : Register} (hr : r.toNat ≤ x.toNat) :
      MayChange rules m (.withByte 0xF x 0x65) (.register r)
  /-- Every instruction on two registers leaves a result in the first one. -/
  | result (x y : Register) {n : Nibble} (hn : n.toNat ≤ 0x7 ∨ n = 0xE) :
      MayChange rules m (.ofNibbles 0x8 x y n) (.register x)
  /-- Those after the bitwise ones also leave a flag. -/
  | flag (x y : Register) {n : Nibble} (hn : 0x4 ≤ n.toNat ∧ n.toNat ≤ 0x7 ∨ n = 0xE) :
      MayChange rules m (.ofNibbles 0x8 x y n) (.register Registers.flag)
  /-- Under the rule for shifts, both registers hold the result. -/
  | second (x y : Register) {n : Nibble} (hn : n = 0x6 ∨ n = 0xE)
      (hboth : rules.shiftsBoth = true) :
      MayChange rules m (.ofNibbles 0x8 x y n) (.register y)
  | collision (x y : Register) (n : Nibble) :
      MayChange rules m (.ofNibbles 0xD x y n) (.register Registers.flag)
  | loadIndex (nnn : Address) : MayChange rules m (.withAddress 0xA nnn) .index
  | addIndex (x : Register) : MayChange rules m (.withByte 0xF x 0x1E) .index
  | pointAtGlyph (x : Register) : MayChange rules m (.withByte 0xF x 0x29) .index
  | storedIndex (x : Register) : MayChange rules m (.withByte 0xF x 0x55) .index
  | loadedIndex (x : Register) : MayChange rules m (.withByte 0xF x 0x65) .index
  | delay (x : Register) : MayChange rules m (.withByte 0xF x 0x15) .delay
  | sound (x : Register) : MayChange rules m (.withByte 0xF x 0x18) .sound
  | pushed (nnn : Address) : MayChange rules m (.withAddress 0x2 nnn) .stack
  | popped : MayChange rules m 0x00EE .stack
  | digit (x : Register) {k : Nat} (hk : k < 3) :
      MayChange rules m (.withByte 0xF x 0x33) (.cell (m.i.toNat + k))
  | stored (x : Register) {k : Nat} (hk : k ≤ x.toNat) :
      MayChange rules m (.withByte 0xF x 0x55) (.cell (m.i.toNat + k))
  | cleared : MayChange rules m 0x00E0 .display
  | drawn (x y : Register) (n : Nibble) : MayChange rules m (.ofNibbles 0xD x y n) .display

variable {rules : Rules} {source : ByteSource} {m : Machine} {cycle : Cycle} {w : Word}

/-! ### What an instruction keeps -/

/-- The registers are those of the machine, except where the word lists them. -/
def Within (rules : Rules) (m : Machine) (w : Word) (v : Registers) : Prop :=
  ∀ r, MayChange rules m w (.register r) ∨ v.read r = m.v.read r

theorem Within.self : Within rules m w m.v := fun _ => .inr rfl

theorem Within.write {v : Registers} {x : Register} {b : Byte} (hv : Within rules m w v)
    (hx : MayChange rules m w (.register x)) : Within rules m w (v.write x b) := by
  intro r
  rw [Registers.read_write]
  split
  · rename_i heq
    exact .inl (heq ▸ hx)
  · exact hv r

theorem within_withFlag {x : Register} {result : Byte} {f : Bool}
    (hx : MayChange rules m w (.register x))
    (hflag : MayChange rules m w (.register Registers.flag)) :
    Within rules m w (withFlag m.v x result f) :=
  (Within.self.write hx).write hflag

theorem within_withShift {x y : Register} {result : Byte} {f : Bool}
    (hx : MayChange rules m w (.register x))
    (hy : rules.shiftsBoth = true → MayChange rules m w (.register y))
    (hflag : MayChange rules m w (.register Registers.flag)) :
    Within rules m w (withShift rules m.v x y result f) := by
  unfold withShift
  split
  · rename_i hboth
    exact ((Within.self.write hx).write (hy hboth)).write hflag
  · exact (Within.self.write hx).write hflag

theorem within_fill {x : Register} {bytes : List Byte} (hlen : bytes.length = x.toNat + 1)
    (hx : ∀ r : Register, r.toNat ≤ x.toNat → MayChange rules m w (.register r)) :
    Within rules m w (m.v.fill 0 bytes) := by
  intro r
  by_cases hr : r.toNat ≤ x.toNat
  · exact .inl (hx r hr)
  · have hnone : bytes.length ≤ r.toNat - 0 := by omega
    rw [Registers.read_fill, if_pos (Nat.zero_le _), List.getElem?_eq_none hnone]
    exact .inr rfl

/-- An instruction that only writes registers keeps all the other components. -/
theorem mayChange_or_same_registers {v : Registers} (hv : Within rules m w v) (c : Component) :
    MayChange rules m w c ∨ Same m ((m.latch w).withRegisters v) c := by
  cases c with
  | register r => exact hv r
  | _ => exact .inr rfl

/-- A block that is stored at the index register changes the bytes of the block. -/
theorem mayChange_or_same_cell {bytes : List Byte}
    (hblock : ∀ k < bytes.length, MayChange rules m w (.cell (m.i.toNat + k))) (a : Nat) :
    MayChange rules m w (.cell a) ∨
      (m.memory.store m.i.toNat bytes).byteAt a = m.memory.byteAt a := by
  by_cases hin : m.i.toNat ≤ a ∧ a < m.i.toNat + bytes.length
  · obtain ⟨k, rfl⟩ := Nat.exists_eq_add_of_le hin.1
    exact .inl (hblock k (by omega))
  · exact .inr (m.memory.byteAt_store_of_outside (by omega))

/-- **An instruction keeps every component that its word does not list.** -/
theorem mayChange_or_same {ins : Instruction} {effect : Effect} (hw : w = ins.encode)
    (he : Executed rules source (m.latch w) ins effect) (c : Component) :
    MayChange rules m w c ∨ Same m effect.machine c := by
  subst hw
  cases he with
  | clearScreen =>
      cases c with
      | display => exact .inl .cleared
      | _ => exact .inr rfl
  | ret hs =>
      cases c with
      | stack => exact .inl .popped
      | _ => exact .inr rfl
  | call nnn hs =>
      cases c with
      | stack => exact .inl (.pushed nnn)
      | _ => exact .inr rfl
  | jump | jumpFrom | skipIfByte | skipUnlessByte | skipIfSame | skipUnlessSame | skipIfKey
  | skipUnlessKey | wait =>
      -- the program counter is no component
      cases c <;> exact .inr rfl
  | loadByte x nn => exact mayChange_or_same_registers (Within.self.write (.loadByte x nn)) c
  | addByte x nn => exact mayChange_or_same_registers (Within.self.write (.addByte x nn)) c
  | copy x y | bitOr x y | bitAnd x y | bitXor x y =>
      exact mayChange_or_same_registers (Within.self.write (.result x y (.inl (by decide)))) c
  | add x y | sub x y | subFrom x y =>
      exact mayChange_or_same_registers
        (within_withFlag (.result x y (.inl (by decide))) (.flag x y (.inl (by decide)))) c
  | shiftRight x y =>
      exact mayChange_or_same_registers
        (within_withShift (.result x y (.inl (by decide))) (.second x y (.inl rfl))
          (.flag x y (.inl (by decide)))) c
  | shiftLeft x y =>
      exact mayChange_or_same_registers
        (within_withShift (.result x y (.inr rfl)) (.second x y (.inr rfl))
          (.flag x y (.inr rfl))) c
  | loadIndex nnn =>
      cases c with
      | index => exact .inl (.loadIndex nnn)
      | _ => exact .inr rfl
  | random x nn => exact mayChange_or_same_registers (Within.self.write (.random x nn)) c
  | draw x y n hi =>
      cases c with
      | register r => exact Within.self.write (.collision x y n) r
      | display => exact .inl (.drawn x y n)
      | _ => exact .inr rfl
  | readDelay x => exact mayChange_or_same_registers (Within.self.write (.readDelay x)) c
  | setDelay x =>
      cases c with
      | delay => exact .inl (.delay x)
      | _ => exact .inr rfl
  | setSound x =>
      cases c with
      | sound => exact .inl (.sound x)
      | _ => exact .inr rfl
  | awaitKey x hk =>
      have hdown : m.keypad.isPressed _ = true := Keypad.isPressed_of_firstPressed hk
      exact mayChange_or_same_registers (Within.self.write (.awaitKey x hdown)) c
  | addIndex x =>
      cases c with
      | index => exact .inl (.addIndex x)
      | _ => exact .inr rfl
  | pointAtGlyph x =>
      cases c with
      | index => exact .inl (.pointAtGlyph x)
      | _ => exact .inr rfl
  | storeDecimal x hi =>
      cases c with
      | cell a =>
          refine mayChange_or_same_cell ?_ a
          exact fun k hk => .digit x hk
      | _ => exact .inr rfl
  | storeRegisters x hi =>
      cases c with
      | cell a =>
          refine mayChange_or_same_cell ?_ a
          intro k hk
          rw [Registers.length_upTo] at hk
          exact .stored x (Nat.lt_succ_iff.mp hk)
      | index => exact .inl (.storedIndex x)
      | _ => exact .inr rfl
  | loadRegisters x hi =>
      cases c with
      | register r => exact within_fill (Memory.length_slice _ _ _) (fun r hr => .loaded x hr) r
      | index => exact .inl (.loadedIndex x)
      | _ => exact .inr rfl

/-! ### What a cycle keeps -/

/-- What is left after a cycle that succeeds, apart from the program counter. -/
structure Keeps (rules : Rules) (source : ByteSource) (m : Machine) (cycle : Cycle)
    (o : StepOutcome) : Prop where
  kept : ∀ c, ¬MayChange rules m cycle.word c → Same m o.machine c
  noted : o.machine.lastWord = cycle.word
  /-- A call puts one entry on the stack. -/
  pushed : ∀ nnn, cycle.word = .withAddress 0x2 nnn →
    ∃ address, o.machine.stack = address :: m.stack
  /-- A return takes the latest entry off the stack. -/
  popped : cycle.word = 0x00EE → ∃ address, m.stack = address :: o.machine.stack
  /-- A random byte is the next one of the source, which goes on by one byte. -/
  random : ∀ x nn, cycle.word = .withByte 0xC x nn →
    o.machine.v.read x = source.next.1 &&& nn ∧ o.source = source.next.2
  source : (∀ x nn, cycle.word ≠ .withByte 0xC x nn) → o.source = source
  /-- The report says whether the display was cleared or drawn on, and so does the display. -/
  drew_iff : cycle.drew = true ↔
    cycle.word = 0x00E0 ∨ ∃ x y n, cycle.word = .ofNibbles 0xD x y n
  marked : cycle.drew = true → o.machine.display.dirty = true

theorem kept_of_step (h : (m.step rules source).result = .ok cycle) (c : Component) :
    MayChange rules m m.nextWord c ∨ Same m (m.step rules source).machine c := by
  have hsucceeds := succeeds_of_step h
  generalize m.step rules source = o at hsucceeds ⊢
  cases hsucceeds with
  | unknown hpc hd => cases c <;> exact .inr rfl
  | executed hpc hw he => exact mayChange_or_same hw he c

theorem lastWord_of_executed {ins : Instruction} {effect : Effect}
    (he : Executed rules source m ins effect) : effect.machine.lastWord = m.lastWord := by
  cases he <;> rfl

theorem lastWord_of_step (h : (m.step rules source).result = .ok cycle) :
    (m.step rules source).machine.lastWord = m.nextWord := by
  have hsucceeds := succeeds_of_step h
  generalize m.step rules source = o at hsucceeds ⊢
  cases hsucceeds with
  | unknown hpc hd => rfl
  | executed hpc hw he => exact lastWord_of_executed (m := m.latch m.nextWord) he

theorem source_of_step (h : (m.step rules source).result = .ok cycle)
    (hw : ∀ x nn, m.nextWord ≠ .withByte 0xC x nn) : (m.step rules source).source = source := by
  have hsucceeds := succeeds_of_step h
  generalize m.step rules source = o at hsucceeds ⊢
  cases hsucceeds with
  | unknown hpc hd => rfl
  | executed hpc hins he =>
      cases he with
      | random x nn => exact absurd hins (hw x nn)
      | _ => rfl

theorem random_of_step (h : (m.step rules source).result = .ok cycle) {x : Register} {nn : Byte}
    (hw : m.nextWord = .withByte 0xC x nn) :
    (m.step rules source).machine.v.read x = source.next.1 &&& nn ∧
      (m.step rules source).source = source.next.2 := by
  obtain ⟨effect, he, hstep⟩ := executed_of_step (.random x nn) hw h
  rw [hstep]
  cases he
  refine ⟨?_, rfl⟩
  show (m.v.write x (source.next.1 &&& nn)).read x = _
  rw [Registers.read_write, if_pos rfl]

theorem pushed_of_step (h : (m.step rules source).result = .ok cycle) {nnn : Address}
    (hw : m.nextWord = .withAddress 0x2 nnn) :
    (m.step rules source).machine.stack = (m.pc + 2) :: m.stack := by
  obtain ⟨effect, he, hstep⟩ := executed_of_step (.call nnn) hw h
  rw [hstep]
  cases he
  rfl

/-- An instruction that clears the display or draws on it notes that, and no other one does. -/
theorem drew_of_executed {ins : Instruction} {effect : Effect}
    (he : Executed rules source m ins effect) :
    effect.drew = (decide (ins.operation = .clearScreen) || decide (ins.operation = .draw)) := by
  cases he <;> rfl

theorem drew_iff (h : (m.step rules source).result = .ok cycle) :
    cycle.drew = true ↔ m.nextWord = 0x00E0 ∨ ∃ x y n, m.nextWord = .ofNibbles 0xD x y n := by
  rw [← Word.operation_eq_clearScreen_iff, ← Word.operation_eq_draw_iff]
  have hsucceeds := succeeds_of_step h
  generalize m.step rules source = o at hsucceeds
  cases hsucceeds with
  | unknown hpc hd =>
      rw [(Word.operation_eq_unknown_iff _).mpr hd]
      exact iff_of_false Bool.false_ne_true (by decide)
  | @executed hpc ins effect hw he =>
      show effect.drew = true ↔ _
      rw [drew_of_executed he, hw, Word.operation_encode, Bool.or_eq_true, decide_eq_true_iff,
        decide_eq_true_iff]

theorem dirty_of_drew (h : (m.step rules source).result = .ok cycle) (hdrew : cycle.drew = true) :
    (m.step rules source).machine.display.dirty = true := by
  have hsucceeds := succeeds_of_step h
  generalize m.step rules source = o at hsucceeds ⊢
  cases hsucceeds with
  | unknown hpc hd => cases hdrew
  | executed hpc hw he =>
      cases he with
      | clearScreen | draw => rfl
      | _ => cases hdrew

/-- **A cycle changes nothing but what its word is for.**  Every component that the word does not
list holds the same afterwards, down to the single register and the single byte; the stack has one
entry more or less; and the source of random bytes gives one byte or none. -/
theorem only_listed (h : (m.step rules source).result = .ok cycle) :
    Keeps rules source m cycle (m.step rules source) := by
  obtain ⟨-, -, hword⟩ := cycle_of_step h
  constructor
  case marked => exact dirty_of_drew h
  all_goals rw [hword]
  case kept => exact fun c hc => (kept_of_step h c).resolve_left hc
  case noted => exact lastWord_of_step h
  case pushed => exact fun nnn hw => ⟨_, pushed_of_step h hw⟩
  case popped => exact fun hw => ⟨_, pc_of_ret h hw⟩
  case random => exact fun x nn => random_of_step h
  case source => exact source_of_step h
  case drew_iff => exact drew_iff h

/-- A machine whose next word stores two registers over itself. -/
def overwritingItself : Machine := { withProgram [0xF1, 0x55] with i := 0x200 }

/-- The word is gone afterwards, and nothing else is. -/
theorem only_listed_overwritingItself :
    let o := overwritingItself.step ⟨true, 16⟩ .zeros
    let cycle : Cycle := ⟨0x200, 0xF155, true, false, false⟩
    (o.result = .ok cycle ∧ o.machine.nextWord = 0) ∧
      Keeps ⟨true, 16⟩ .zeros overwritingItself cycle o := by
  intro o cycle
  have hfacts : o.result.toOption = some cycle ∧ o.machine.nextWord = 0 := by decide +kernel
  have hresult : o.result = .ok cycle := by
    cases ho : o.result with
    | error fault => rw [ho] at hfacts; cases hfacts.1
    | ok c => rw [ho] at hfacts; exact congrArg Except.ok (Option.some.inj hfacts.1)
  exact ⟨⟨hresult, hfacts.2⟩, only_listed hresult⟩

end ChipEight.Machine
