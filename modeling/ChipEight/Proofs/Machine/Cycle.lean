/-
What one cycle can come to.

A cycle has four ways to end.  The program counter may stand at the last position of memory,
where there is no word; the word at the program counter may encode no instruction; its
instruction may be refused; or it is executed.  `Outcomes` lists the four with everything that
is left behind, and `outcomes_step` says that `step` does one of them.  Proofs about a cycle
start from there and do not open `step` again.

Two kinds of cycle get nowhere: a word without an instruction, and an instruction that waits
for a key.  Both leave the machine where it was, with only the record of the last word
changed, and that record is the one thing in a machine that no fetch looks at.  So whoever
repeats such a cycle gets the same again, which is `step_repeat`.
-/
import ChipEight.Proofs.Machine.Rules

namespace ChipEight

namespace Word

theorem operation_eq_unknown_iff (w : Word) :
    w.operation = .unknown ↔ Instruction.decode w = none := by
  unfold operation
  cases Instruction.decode w with
  | none => exact ⟨fun _ => rfl, fun _ => rfl⟩
  | some ins => cases ins <;> simp [Instruction.operation]

theorem operation_encode (ins : Instruction) : ins.encode.operation = ins.operation := by
  rw [operation, Instruction.decode_encode]

/-- The operation of a word is that of its instruction. -/
theorem exists_instruction {w : Word} (h : w.operation ≠ .unknown) :
    ∃ ins : Instruction, w = ins.encode ∧ w.operation = ins.operation := by
  cases hd : Instruction.decode w with
  | none => exact absurd ((operation_eq_unknown_iff w).mpr hd) h
  | some ins =>
      obtain rfl := Instruction.encode_of_decode hd
      exact ⟨ins, rfl, operation_encode ins⟩

theorem operation_eq_clearScreen_iff (w : Word) : w.operation = .clearScreen ↔ w = 0x00E0 := by
  constructor
  · intro h
    obtain ⟨ins, rfl, hins⟩ := exists_instruction (w := w) (by rw [h]; decide)
    rw [h] at hins
    cases ins with
    | clearScreen => rfl
    | _ => cases hins
  · rintro rfl
    exact operation_encode .clearScreen

theorem operation_eq_draw_iff (w : Word) :
    w.operation = .draw ↔ ∃ x y n, w = .ofNibbles 0xD x y n := by
  constructor
  · intro h
    obtain ⟨ins, rfl, hins⟩ := exists_instruction (w := w) (by rw [h]; decide)
    rw [h] at hins
    cases ins with
    | draw x y n => exact ⟨x, y, n, rfl⟩
    | _ => cases hins
  · rintro ⟨x, y, n, rfl⟩
    exact operation_encode (.draw x y n)

theorem isKnown_eq_false_iff (w : Word) : w.isKnown = false ↔ Instruction.decode w = none := by
  rw [isKnown, Option.isSome_eq_false_iff, Option.isNone_iff_eq_none]

/-- The end marker encodes no instruction. -/
theorem decode_zero : Instruction.decode 0 = none := by decide

end Word

/-- The fault of a cycle at the last position of memory, where there is no word. -/
def Fault.pastEnd : Fault := ⟨.memoryAccess 0x1000, some 0xFFF, none⟩

namespace Machine

variable {rules : Rules} {source : ByteSource} {m : Machine}

/-! ### The word at the program counter -/

/-- The word at the program counter; meant for a program counter before the last position. -/
def nextWord (m : Machine) : Word := m.memory.wordAt m.pc.toNat

theorem fetch_at_end (h : m.pc.toNat = 0xFFF) : m.fetch = .error Fault.pastEnd := by
  rw [fetch, Memory.readWord_address, if_pos h, h]
  rfl

theorem fetch_before_end (h : m.pc.toNat ≠ 0xFFF) : m.fetch = .ok m.nextWord := by
  rw [fetch, Memory.readWord_address, if_neg h]
  rfl

@[simp] theorem latch_latch (m : Machine) (v w : Word) : (m.latch v).latch w = m.latch w := rfl

@[simp] theorem nextWord_latch (m : Machine) (w : Word) :
    (m.latch w).nextWord = m.nextWord := rfl

/-- Why an instruction is refused does not depend on the record of the last word. -/
theorem refused_latch_iff {ins : Instruction} {cause : Cause} {w : Word} :
    Refused rules (m.latch w) ins cause ↔ Refused rules m ins cause := by
  constructor <;> intro h <;> cases h <;> constructor <;> assumption

/-! ### The four outcomes -/

/-- What a cycle can come to, with everything that it leaves behind. -/
inductive Outcomes (rules : Rules) (source : ByteSource) (m : Machine) : StepOutcome → Prop
  /-- There is no word, and not even the record of the last word changes. -/
  | pastEnd (hpc : m.pc.toNat = 0xFFF) : Outcomes rules source m ⟨.error Fault.pastEnd, m, source⟩
  /-- The word encodes no instruction. -/
  | unknown (hpc : m.pc.toNat ≠ 0xFFF) (hd : Instruction.decode m.nextWord = none) :
      Outcomes rules source m
        ⟨.ok ⟨m.pc, m.nextWord, false, false, false⟩, m.latch m.nextWord, source⟩
  /-- The instruction is refused. -/
  | refused (hpc : m.pc.toNat ≠ 0xFFF) {ins : Instruction} {cause : Cause}
      (hd : Instruction.decode m.nextWord = some ins) (hr : Refused rules m ins cause) :
      Outcomes rules source m
        ⟨.error ⟨cause, some m.pc.toNat, some m.nextWord.toNat⟩, m.latch m.nextWord, source⟩
  /-- The instruction is executed. -/
  | executed (hpc : m.pc.toNat ≠ 0xFFF) {ins : Instruction} {effect : Effect}
      (hd : Instruction.decode m.nextWord = some ins)
      (he : Executed rules source (m.latch m.nextWord) ins effect) :
      Outcomes rules source m
        ⟨.ok (effect.report m.pc m.nextWord), effect.machine, effect.source⟩

/-! ### What becomes of a cycle -/

theorem fetchNext_run (hpc : m.pc.toNat ≠ 0xFFF) :
    fetchNext (.start source m) = .ok m.nextWord (.start source (m.latch m.nextWord)) := by
  rw [fetchNext, get_bind, Effect.start, fetch_before_end hpc]
  rfl

/-- Nothing is fetched past the end, so nothing is written either. -/
theorem cycle_pastEnd (hpc : m.pc.toNat = 0xFFF) :
    cycle rules (.start source m) = .error Fault.pastEnd (.start source m) := by
  have hfetch : fetchNext (.start source m) = .error Fault.pastEnd (.start source m) := by
    rw [fetchNext, get_bind, Effect.start, fetch_at_end hpc]
    rfl
  rw [cycle, get_bind, bind_of_error hfetch]

theorem cycle_unknown (hpc : m.pc.toNat ≠ 0xFFF) (hd : Instruction.decode m.nextWord = none) :
    cycle rules (.start source m) =
      .ok ⟨m.pc, m.nextWord, false, false, false⟩ (.start source (m.latch m.nextWord)) := by
  rw [cycle, get_bind, bind_of_ok (fetchNext_run hpc), (Word.isKnown_eq_false_iff _).mpr hd]
  rfl

/-- The fault of a refused instruction names the instruction, whoever has raised it. -/
theorem blamedOn_raised {ins : Instruction} {cause : Cause} (w : Word)
    (hr : Refused rules m ins cause) :
    ((m.latch w).raised cause).blamedOn m.pc.toNat w.toNat =
      ⟨cause, some m.pc.toNat, some w.toNat⟩ := by
  cases hr <;> rfl

/-- A cycle at an instruction executes it, and blames its refusals on it. -/
theorem cycle_known (hpc : m.pc.toNat ≠ 0xFFF) {ins : Instruction}
    (hd : Instruction.decode m.nextWord = some ins) :
    cycle rules (.start source m) =
      (do
        tryCatch (execute rules ins)
          fun fault => throw (fault.blamedOn m.pc.toNat m.nextWord.toNat)
        return (← get).report m.pc m.nextWord : Execution Cycle)
        (.start source (m.latch m.nextWord)) := by
  have hknown : m.nextWord.isKnown = true := by rw [Word.isKnown, hd]; rfl
  rw [cycle, get_bind, bind_of_ok (fetchNext_run hpc), if_pos hknown]
  simp only [instructionOf, hd]
  rfl

theorem cycle_refused (hpc : m.pc.toNat ≠ 0xFFF) {ins : Instruction} {cause : Cause}
    (hd : Instruction.decode m.nextWord = some ins) (hr : Refused rules m ins cause) :
    cycle rules (.start source m) =
      .error ⟨cause, some m.pc.toNat, some m.nextWord.toNat⟩
        (.start source (m.latch m.nextWord)) := by
  have hexecute := execute_of_refused (.start source (m.latch m.nextWord))
    (refused_latch_iff.mpr hr)
  rw [cycle_known hpc hd]
  refine bind_of_error ((tryCatch_of_error hexecute _).trans ?_) _
  exact congrArg (EStateM.Result.error · _) (blamedOn_raised m.nextWord hr)

theorem cycle_executed (hpc : m.pc.toNat ≠ 0xFFF) {ins : Instruction} {effect : Effect}
    (hd : Instruction.decode m.nextWord = some ins)
    (he : Executed rules source (m.latch m.nextWord) ins effect) :
    cycle rules (.start source m) = .ok (effect.report m.pc m.nextWord) effect := by
  rw [cycle_known hpc hd]
  exact bind_of_ok (tryCatch_of_ok (execute_of_executed he) _) _

theorem step_pastEnd (hpc : m.pc.toNat = 0xFFF) :
    m.step rules source = ⟨.error Fault.pastEnd, m, source⟩ := by
  rw [step, cycle_pastEnd hpc]
  rfl

theorem step_unknown (hpc : m.pc.toNat ≠ 0xFFF) (hd : Instruction.decode m.nextWord = none) :
    m.step rules source =
      ⟨.ok ⟨m.pc, m.nextWord, false, false, false⟩, m.latch m.nextWord, source⟩ := by
  rw [step, cycle_unknown hpc hd]
  rfl

theorem step_refused (hpc : m.pc.toNat ≠ 0xFFF) {ins : Instruction} {cause : Cause}
    (hd : Instruction.decode m.nextWord = some ins) (hr : Refused rules m ins cause) :
    m.step rules source =
      ⟨.error ⟨cause, some m.pc.toNat, some m.nextWord.toNat⟩, m.latch m.nextWord, source⟩ := by
  rw [step, cycle_refused hpc hd hr]
  rfl

theorem step_executed (hpc : m.pc.toNat ≠ 0xFFF) {ins : Instruction} {effect : Effect}
    (hd : Instruction.decode m.nextWord = some ins)
    (he : Executed rules source (m.latch m.nextWord) ins effect) :
    m.step rules source =
      ⟨.ok (effect.report m.pc m.nextWord), effect.machine, effect.source⟩ := by
  rw [step, cycle_executed hpc hd he]
  rfl

/-- **A cycle has one of the four outcomes.** -/
theorem outcomes_step (rules : Rules) (source : ByteSource) (m : Machine) :
    Outcomes rules source m (m.step rules source) := by
  by_cases hpc : m.pc.toNat = 0xFFF
  · rw [step_pastEnd hpc]
    exact .pastEnd hpc
  · cases hd : Instruction.decode m.nextWord with
    | none =>
        rw [step_unknown hpc hd]
        exact .unknown hpc hd
    | some ins =>
        rcases refused_or_executed rules source (m.latch m.nextWord) ins with
          ⟨cause, hr⟩ | ⟨effect, he⟩
        · rw [step_refused hpc hd (refused_latch_iff.mp hr)]
          exact .refused hpc hd (refused_latch_iff.mp hr)
        · rw [step_executed hpc hd he]
          exact .executed hpc hd he

/-- What a cycle that succeeds comes to: two of the outcomes are left. -/
inductive Succeeds (rules : Rules) (source : ByteSource) (m : Machine) :
    Cycle → StepOutcome → Prop
  /-- The word encodes no instruction. -/
  | unknown (hpc : m.pc.toNat ≠ 0xFFF) (hd : Instruction.decode m.nextWord = none) :
      Succeeds rules source m ⟨m.pc, m.nextWord, false, false, false⟩
        ⟨.ok ⟨m.pc, m.nextWord, false, false, false⟩, m.latch m.nextWord, source⟩
  /-- The instruction is executed. -/
  | executed (hpc : m.pc.toNat ≠ 0xFFF) {ins : Instruction} {effect : Effect}
      (hw : m.nextWord = ins.encode)
      (he : Executed rules source (m.latch m.nextWord) ins effect) :
      Succeeds rules source m (effect.report m.pc m.nextWord)
        ⟨.ok (effect.report m.pc m.nextWord), effect.machine, effect.source⟩

theorem succeeds_of_step {c : Cycle} (h : (m.step rules source).result = .ok c) :
    Succeeds rules source m c (m.step rules source) := by
  have hout := outcomes_step rules source m
  generalize m.step rules source = o at h hout ⊢
  cases hout with
  | pastEnd hpc => cases h
  | refused hpc hd hr => cases h
  | unknown hpc hd =>
      obtain rfl := Except.ok.inj h
      exact .unknown hpc hd
  | executed hpc hd he =>
      obtain rfl := Except.ok.inj h
      exact .executed hpc (Instruction.encode_of_decode hd).symm he

/-- A cycle that succeeds reports the word at the program counter. -/
theorem cycle_of_step {c : Cycle} (h : (m.step rules source).result = .ok c) :
    m.pc.toNat ≠ 0xFFF ∧ c.address = m.pc ∧ c.word = m.nextWord := by
  have hsucceeds := succeeds_of_step h
  generalize m.step rules source = o at hsucceeds
  cases hsucceeds with
  | unknown hpc hd => exact ⟨hpc, rfl, rfl⟩
  | executed hpc hw he => exact ⟨hpc, rfl, rfl⟩

/-- A cycle that succeeds has recorded whether its word encodes an instruction. -/
theorem isImplemented_of_step {c : Cycle} (h : (m.step rules source).result = .ok c) :
    c.isImplemented = c.word.isKnown := by
  have hsucceeds := succeeds_of_step h
  generalize m.step rules source = o at hsucceeds
  cases hsucceeds with
  | unknown hpc hd => exact ((Word.isKnown_eq_false_iff _).mpr hd).symm
  | executed hpc hw he =>
      show true = m.nextWord.isKnown
      rw [hw, Word.isKnown, Instruction.decode_encode]
      rfl

/-- A cycle that succeeds at the word of an instruction has executed it. -/
theorem executed_of_step (ins : Instruction) {c : Cycle} (hw : m.nextWord = ins.encode)
    (h : (m.step rules source).result = .ok c) :
    ∃ effect, Executed rules source (m.latch m.nextWord) ins effect ∧
      m.step rules source =
        ⟨.ok (effect.report m.pc m.nextWord), effect.machine, effect.source⟩ := by
  have hdecode : Instruction.decode m.nextWord = some ins :=
    Instruction.decode_eq_some_iff.mpr hw.symm
  have hsucceeds := succeeds_of_step h
  generalize m.step rules source = o at hsucceeds ⊢
  cases hsucceeds with
  | unknown hpc hd =>
      rw [hdecode] at hd
      cases hd
  | executed hpc hw' he =>
      obtain rfl := Option.some.inj
        (hdecode.symm.trans (Instruction.decode_eq_some_iff.mpr hw'.symm))
      exact ⟨_, he, rfl⟩

/-! ### Cycles that get nowhere -/

/-- Before the last position a cycle does not depend on the record of the last word. -/
theorem step_latch (hpc : m.pc.toNat ≠ 0xFFF) (w : Word) :
    (m.latch w).step rules source = m.step rules source := by
  have hpc' : (m.latch w).pc.toNat ≠ 0xFFF := hpc
  have hcycle : cycle rules (.start source (m.latch w)) = cycle rules (.start source m) := by
    rw [cycle, get_bind, get_bind, bind_of_ok (fetchNext_run hpc), bind_of_ok (fetchNext_run hpc'),
      nextWord_latch, latch_latch]
    rfl
  rw [step, step, hcycle]

/-- An instruction that waits leaves everything as it was. -/
theorem machine_of_waiting {ins : Instruction} {effect : Effect}
    (he : Executed rules source m ins effect) (hw : effect.waiting = true) :
    effect.machine = m ∧ effect.source = source := by
  cases he with
  | wait x hk => exact ⟨rfl, rfl⟩
  | _ => cases hw

/-- A cycle that gets nowhere changes the record of the last word and nothing else. -/
theorem step_of_idle {c : Cycle} (h : (m.step rules source).result = .ok c)
    (hidle : c.isImplemented = false ∨ c.waiting = true) :
    m.step rules source = ⟨.ok c, m.latch m.nextWord, source⟩ ∧ m.pc.toNat ≠ 0xFFF := by
  have hsucceeds := succeeds_of_step h
  generalize m.step rules source = o at hsucceeds ⊢
  cases hsucceeds with
  | unknown hpc hd => exact ⟨rfl, hpc⟩
  | executed hpc hw he =>
      have hwait := hidle.resolve_left Bool.noConfusion
      obtain ⟨hm, hs⟩ := machine_of_waiting he hwait
      rw [hm, hs]
      exact ⟨rfl, hpc⟩

/-- **A cycle that gets nowhere can be repeated:** it gives the same result again, and from
then on not even the record of the last word changes. -/
theorem step_repeat {c : Cycle} (h : (m.step rules source).result = .ok c)
    (hidle : c.isImplemented = false ∨ c.waiting = true) :
    (m.latch m.nextWord).step rules source = ⟨.ok c, m.latch m.nextWord, source⟩ := by
  obtain ⟨hstep, hpc⟩ := step_of_idle h hidle
  rw [step_latch hpc, hstep]

end Machine
end ChipEight
