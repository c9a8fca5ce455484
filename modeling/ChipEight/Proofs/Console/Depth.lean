/-
More room on the call stack.

The bound of the call stack is looked at in one place only, when a call pushes its return address.
So a program that gets along with some bound does the same with every larger one.  The other way
round, the stack never grows beyond the bound, so the first cycle that can tell two bounds apart
is a call that finds the stack exactly as high as the smaller one; there it overflows, and nothing
but its word is noted.

This is said first of a machine, where the bound may be any number, and then of the runs and frames
of a console.
-/
import ChipEight.Proofs.Console.Faults
import ChipEight.Proofs.Console.OtherSettings
import ChipEight.Proofs.Console.WellFormed

namespace ChipEight

/-- The fault is an overflow of the call stack. -/
def Fault.IsOverflow (f : Fault) : Prop := ∃ depth, f.cause = .stackOverflow depth

/-- The rules with another bound for the call stack. -/
def Rules.withDepth (rules : Rules) (depth : Nat) : Rules := { rules with stackDepth := depth }

namespace Machine

variable {rules : Rules} {source : ByteSource} {m : Machine} {depth : Nat}

/-! ### One cycle -/

/-- The next cycle is a call that finds the stack full.  It overflows, and leaves everything as it
was but for the note of its word. -/
structure Overflows (rules : Rules) (source : ByteSource) (m : Machine) : Prop where
  full : m.stack.length = rules.stackDepth
  call : ∃ nnn, m.nextWord = .withAddress 0x2 nnn
  step : m.step rules source =
    ⟨.error (m.faultHere (.stackOverflow rules.stackDepth)), m.latch m.nextWord, source⟩

/-- The next cycle does not overflow the stack. -/
def StaysWithin (rules : Rules) (source : ByteSource) (m : Machine) : Prop :=
  ∀ fault, (m.step rules source).result = .error fault → ¬fault.IsOverflow

theorem refused_withDepth {ins : Instruction} {cause : Cause} (hr : Refused rules m ins cause)
    (hcause : ∀ k, cause ≠ .stackOverflow k) : Refused (rules.withDepth depth) m ins cause := by
  cases hr with
  | call nnn hs => exact absurd rfl (hcause _)
  | _ =>
      constructor
      assumption

theorem executed_withDepth (hle : rules.stackDepth ≤ depth) {ins : Instruction} {effect : Effect}
    (he : Executed rules source m ins effect) :
    Executed (rules.withDepth depth) source m ins effect := by
  cases he with
  | call nnn hs => exact .call nnn (Nat.lt_of_lt_of_le hs hle)
  | _ => constructor <;> assumption

/-- **A cycle that does not overflow the stack comes out the same with more room.** -/
theorem step_withDepth (hle : rules.stackDepth ≤ depth) (h : m.StaysWithin rules source) :
    m.step (rules.withDepth depth) source = m.step rules source := by
  refine step_withRules (fun _ hr hfault => ?_) fun _ he _ => executed_withDepth hle he
  exact refused_withDepth hr fun k hk => h _ hfault ⟨k, hk⟩

/-- A cycle overflows the stack only if it is full. -/
theorem overflows_of_fault (hstack : m.stack.length ≤ rules.stackDepth) {fault : Fault}
    (h : (m.step rules source).result = .error fault) (hover : fault.IsOverflow) :
    Overflows rules source m := by
  obtain ⟨k, hcause⟩ := hover
  have hout := outcomes_step rules source m
  generalize ho : m.step rules source = o at h hout
  cases hout with
  | pastEnd hpc =>
      obtain rfl := Except.error.inj h
      cases hcause
  | unknown hpc hd => cases h
  | executed hpc hd he => cases h
  | @refused hpc ins cause hd hr =>
      obtain rfl := Except.error.inj h
      obtain rfl : cause = .stackOverflow k := hcause
      cases hr with
      | call nnn hs =>
          have hfull : m.stack.length = rules.stackDepth := Nat.le_antisymm hstack hs
          refine ⟨hfull, ⟨nnn, (Instruction.encode_of_decode hd).symm⟩, ?_⟩
          rw [ho, ← hfull]
          rfl

theorem staysWithin_or_overflows (hstack : m.stack.length ≤ rules.stackDepth) :
    m.StaysWithin rules source ∨ Overflows rules source m := by
  cases h : (m.step rules source).result with
  | ok cycle => exact .inl fun fault hfault => by cases h.symm.trans hfault
  | error fault =>
      by_cases hover : fault.IsOverflow
      · exact .inr (overflows_of_fault hstack h hover)
      · refine .inl fun fault' hfault => ?_
        obtain rfl := Except.error.inj (h.symm.trans hfault)
        exact hover

/-! ### Many cycles -/

/-- The machine and the source before the `n`-th cycle, counted from zero. -/
def reached (rules : Rules) (source : ByteSource) (m : Machine) : Nat → Machine × ByteSource
  | 0 => (m, source)
  | n + 1 =>
    let before := reached rules source m n
    let o := before.1.step rules before.2
    (o.machine, o.source)

/-- What the `n`-th cycle comes to. -/
def outcome (rules : Rules) (source : ByteSource) (m : Machine) (n : Nat) : StepOutcome :=
  let before := m.reached rules source n
  before.1.step rules before.2

theorem stack_length_reached (hstack : m.stack.length ≤ rules.stackDepth) (n : Nat) :
    (m.reached rules source n).1.stack.length ≤ rules.stackDepth := by
  induction n with
  | zero => exact hstack
  | succ n ih => exact stack_length_of_step ih

/-- The second rules make no difference to the first `n` cycles, nor to what they leave behind. -/
structure SameUpTo (rules rules' : Rules) (source : ByteSource) (m : Machine) (n : Nat) :
    Prop where
  outcomes : ∀ j < n, m.outcome rules' source j = m.outcome rules source j
  reached : m.reached rules' source n = m.reached rules source n

theorem SameUpTo.succ {rules' : Rules} {n : Nat} (h : SameUpTo rules rules' source m n)
    (hn : m.outcome rules' source n = m.outcome rules source n) :
    SameUpTo rules rules' source m (n + 1) where
  outcomes j hj := by
    rcases Nat.lt_succ_iff_lt_or_eq.mp hj with hlt | rfl
    · exact h.outcomes j hlt
    · exact hn
  reached := congrArg (fun o => (o.machine, o.source)) hn

/-- **With more room the machine does the same until it overflows.** -/
theorem sameUpTo_withDepth (hle : rules.stackDepth ≤ depth) (n : Nat)
    (h : ∀ j < n, (m.reached rules source j).1.StaysWithin rules (m.reached rules source j).2) :
    SameUpTo rules (rules.withDepth depth) source m n := by
  induction n with
  | zero => exact ⟨fun j hj => absurd hj (Nat.not_lt_zero j), rfl⟩
  | succ n ih =>
      have hsame := ih fun j hj => h j (Nat.lt_succ_of_lt hj)
      refine hsame.succ ?_
      rw [outcome, outcome, hsame.reached]
      exact step_withDepth hle (h n (Nat.lt_succ_self n))

end Machine

namespace Console

variable {c d : Console} {strict : Bool} {n : Nat} {done : List Cycle}

/-! ### Runs and frames -/

/-- The settings with more room on the call stack. -/
def deeperSettings (c : Console) (depth : Nat) (hle : c.settings.stackDepth ≤ depth) : Settings :=
  { c.settings with
    stackDepth := depth
    stackDepth_pos := Nat.lt_of_lt_of_le c.settings.stackDepth_pos hle }

/-- The next cycle does not overflow the stack. -/
def StaysWithin (c : Console) : Prop :=
  ∀ fault, c.step.result = .error fault → ¬fault.IsOverflow

theorem indifferent_depth {s : Settings} (hle : c.settings.stackDepth ≤ s.stackDepth)
    (hshift : s.shiftsBoth = c.settings.shiftsBoth) (h : c.StaysWithin) : Indifferent s c := by
  have hwithin : c.machine.StaysWithin c.rules c.source :=
    fun fault hfault => h fault ((step_result c).trans hfault)
  have hroom : c.rules.stackDepth ≤ s.stackDepth := hle
  have hrules : (c.withSettings s).rules = c.rules.withDepth s.stackDepth := by
    simp only [rules, withSettings, Rules.withDepth, hshift]
  rw [Indifferent, hrules, Machine.step_withDepth hroom hwithin]

theorem Executes.stack_length (h : Executes c done d)
    (hc : c.machine.stack.length ≤ c.settings.stackDepth) :
    d.machine.stack.length ≤ d.settings.stackDepth := by
  induction h with
  | nil c => exact hc
  | @cons c d cycle rest h himp hrest ih =>
      refine ih ?_
      rw [machine_step, settings_step]
      exact Machine.stack_length_of_step hc

/-- A run of the first console completes some cycles, which the second one takes as well, and then
overflows the stack. -/
structure OverflowsAfter (s : Settings) (c : Console) (done : List Cycle) (d : Console)
    (r : Reply Failure RunResult) : Prop where
  executes : Executes c done d
  same : Executes (c.withSettings s) done (d.withSettings s)
  overflows : d.machine.Overflows d.rules d.source
  /-- Only the word of the call is noted. -/
  console : r.console = d.noteWord
  result : r.result = .error (.fault (d.machine.faultHere (.stackOverflow c.settings.stackDepth)))

theorem Executes.settings_eq (h : Executes c done d) : d.settings = c.settings := by
  rw [← h.afterCycles_eq, settings_afterCycles]

/-- A cycle that is completed does not overflow the stack. -/
theorem staysWithin_of_ok {cycle : Cycle} (h : c.step.result = .ok cycle) : c.StaysWithin :=
  fun fault hfault => by cases h.symm.trans hfault

theorem throughout_indifferent {depth : Nat} (hle : c.settings.stackDepth ≤ depth)
    (h : Throughout StaysWithin c n) : Throughout (Indifferent (c.deeperSettings depth hle)) c n :=
  fun j hj => indifferent_depth (by rw [settings_afterCycles]; exact hle)
    (by rw [settings_afterCycles]; rfl) (h j hj)

theorem Ends.overflowsAfter {depth : Nat} (hle : c.settings.stackDepth ≤ depth)
    (hc : c.machine.stack.length ≤ c.settings.stackDepth) {fault : Fault}
    {r : Reply Failure RunResult} (hr : r.result = .error (.fault fault))
    (h : Ends strict n c done (.error (.fault fault)) r.console) (hover : fault.IsOverflow) :
    ∃ d, OverflowsAfter (c.deeperSettings depth hle) c done d r := by
  generalize he : r.console = e at h
  cases h with
  | @fault done d fault hexec hn hfault =>
      have hwithin : Throughout StaysWithin c (done.length + 0) :=
        hexec.throughout (fun e cycle _ hok => staysWithin_of_ok hok)
          fun j hj => absurd hj (Nat.not_lt_zero j)
      have hmachine := (step_result d).symm.trans hfault
      have hstack : d.machine.stack.length ≤ d.rules.stackDepth := hexec.stack_length hc
      have hoverflows := Machine.overflows_of_fault hstack hmachine hover
      refine ⟨d, hexec, hexec.withSettings (throughout_indifferent hle hwithin), hoverflows,
        he.trans (console_of_fault hfault), ?_⟩
      rw [hoverflows.step] at hmachine
      rw [hr, ← Except.error.inj hmachine, ← hexec.settings_eq]
      rfl

/-- **A larger call stack never changes a run that fits the smaller one.**  A machine takes the same
cycles with either bound until it overflows the smaller one, and the first cycle that can come out
differently is a call that finds the stack just as high as that bound.  So frames and runs of a
console are the same unless they overflow the stack; and a run that does has completed the same
cycles before. -/
theorem same_until_overflow :
    (∀ (rules : Rules) (source : ByteSource) (m : Machine) (depth : Nat),
      rules.stackDepth ≤ depth → m.stack.length ≤ rules.stackDepth →
        (∀ n, (∀ j < n,
            (m.reached rules source j).1.StaysWithin rules (m.reached rules source j).2) →
          m.SameUpTo rules (rules.withDepth depth) source n) ∧
        ∀ n, m.SameUpTo rules (rules.withDepth depth) source n →
          m.outcome (rules.withDepth depth) source n ≠ m.outcome rules source n →
            (m.reached rules source n).1.Overflows rules (m.reached rules source n).2) ∧
    ∀ (c : Console) (depth : Nat) (hle : c.settings.stackDepth ≤ depth),
      c.machine.stack.length ≤ c.settings.stackDepth →
        let s := c.deeperSettings depth hle
        (∀ n, (∀ j < n, (c.afterCycles j).StaysWithin) → SameCycles s c n) ∧
        ∀ maxCycles strict done,
          let r := c.run maxCycles strict
          Accounted c maxCycles strict done r →
            ((∀ fault, r.result = .error (.fault fault) → ¬fault.IsOverflow) →
              SameRun s c maxCycles strict done) ∧
            ∀ fault, r.result = .error (.fault fault) → fault.IsOverflow →
              ∃ d, OverflowsAfter s c done d r := by
  refine ⟨fun rules source m depth hle hstack => ⟨fun n h => ?_, fun n h hne => ?_⟩,
    fun c depth hle hc => ⟨fun n h => ?_, ?_⟩⟩
  · exact Machine.sameUpTo_withDepth hle n h
  · refine (Machine.staysWithin_or_overflows (Machine.stack_length_reached hstack n)).resolve_left
      fun hwithin => hne ?_
    rw [Machine.outcome, Machine.outcome, h.reached]
    exact Machine.step_withDepth hle hwithin
  · exact sameCycles rfl (throughout_indifferent hle h)
  · intro maxCycles strict done r haccounted
    have hends := haccounted.ends
    refine ⟨fun hwithin => ?_, fun fault hr hover => ?_⟩
    · refine sameRun rfl hends (throughout_indifferent hle (hends.throughout ?_ ?_ ?_))
      · exact fun e cycle _ hok => staysWithin_of_ok hok
      · exact fun e reason hstop => staysWithin_of_ok (by rw [step_of_stop hstop])
      · intro e fault hr hfault fault' hfault'
        obtain rfl := Except.error.inj (hfault.symm.trans hfault')
        exact hwithin fault hr
    · exact Ends.overflowsAfter hle hc hr (hr ▸ hends) hover

/-- A subroutine that calls itself: with room for one return address the second call overflows, and
with room for two it does not. -/
theorem same_until_overflow_callsItself :
    let m := Machine.withProgram [0x22, 0x00]
    let small : Rules := ⟨true, 1⟩
    (small.stackDepth ≤ 2 ∧ m.stack.length ≤ small.stackDepth ∧
        m.StaysWithin small .zeros ∧
        m.outcome (small.withDepth 2) .zeros 1 ≠ m.outcome small .zeros 1) ∧
      m.SameUpTo small (small.withDepth 2) .zeros 1 ∧
        (m.reached small .zeros 1).1.Overflows small (m.reached small .zeros 1).2 := by
  intro m small
  have hfirst : (m.step small .zeros).result.isOk = true := by decide +kernel
  have hsecond : (m.outcome (small.withDepth 2) .zeros 1).result.isOk = true ∧
      (m.outcome small .zeros 1).result.isOk = false := by decide +kernel
  have hwithin : m.StaysWithin small .zeros := by
    intro fault hfault
    rw [hfault] at hfirst
    cases hfirst
  have hne : m.outcome (small.withDepth 2) .zeros 1 ≠ m.outcome small .zeros 1 := by
    intro heq
    rw [heq, hsecond.2] at hsecond
    cases hsecond.1
  obtain ⟨hsame, hdiffer⟩ := same_until_overflow.1 small .zeros m 2 (by decide) (Nat.zero_le 1)
  have hone := hsame 1 fun j hj => by
    obtain rfl := Nat.lt_one_iff.mp hj
    exact hwithin
  exact ⟨⟨by decide, Nat.zero_le 1, hwithin, hne⟩, hone, hdiffer 1 hone hne⟩

end Console
end ChipEight
