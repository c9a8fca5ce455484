/-
One console under two settings.

Settings decide under which rules instructions are executed, and most cycles do not notice.  A
cycle is `Indifferent` to other settings if it comes out the same under both, and as long as all
cycles are, two consoles that differ in their settings stay together: this is `Lockstep` once
more.

For a run it is enough to know the cycles that it has completed and how it ended, because whoever
goes on after its end gets nowhere.  `Ends.throughout` carries a condition from these cycles to all
that might follow.
-/
import ChipEight.Proofs.Console.Budget
import ChipEight.Proofs.Console.Faults
import ChipEight.Proofs.Console.Footprint

namespace ChipEight

/-! ### Other rules -/

namespace Machine

variable {rules rules' : Rules} {source : ByteSource} {m : Machine}

/-- **A cycle comes out the same under other rules** if its instruction is refused or executed as
before.  There may be more to know about the instruction, because of what the cycle comes to. -/
theorem step_withRules
    (hrefused : ∀ {ins cause}, Instruction.decode m.nextWord = some ins →
      Refused rules m ins cause →
      (m.step rules source).result = .error (m.faultHere cause) → Refused rules' m ins cause)
    (hexecuted : ∀ {ins effect}, Instruction.decode m.nextWord = some ins →
      Executed rules source (m.latch m.nextWord) ins effect →
      (m.step rules source).result = .ok (effect.report m.pc m.nextWord) →
        Executed rules' source (m.latch m.nextWord) ins effect) :
    m.step rules' source = m.step rules source := by
  have hout := outcomes_step rules source m
  generalize m.step rules source = o at hrefused hexecuted hout
  cases hout with
  | pastEnd hpc => exact step_pastEnd hpc
  | unknown hpc hd => exact step_unknown hpc hd
  | refused hpc hd hr => exact step_refused hpc hd (hrefused hd hr rfl)
  | executed hpc hd he => exact step_executed hpc hd (hexecuted hd he rfl)

end Machine

namespace Console

variable {c d : Console} {s : Settings} {strict : Bool} {n : Nat} {done : List Cycle}
  {result : Except Failure RunResult} {P : Console → Prop}

/-! ### Other settings -/

/-- The console with other settings. -/
def withSettings (c : Console) (s : Settings) : Console := { c with settings := s }

/-- The next cycle comes out the same under other settings. -/
def Indifferent (s : Settings) (c : Console) : Prop :=
  c.machine.step (c.withSettings s).rules c.source = c.machine.step c.rules c.source

theorem Indifferent.step (h : Indifferent s c) :
    (c.withSettings s).step.result = c.step.result ∧
      (c.withSettings s).step.console = c.step.console.withSettings s := by
  rcases ho : c.machine.step c.rules c.source with ⟨fault | cycle, m, source⟩
  · have hs := h.trans ho
    rw [step_of_error ho, step_of_error (c := c.withSettings s) hs]
    exact ⟨rfl, rfl⟩
  · have hs := h.trans ho
    rw [step_of_ok ho, step_of_ok (c := c.withSettings s) hs]
    exact ⟨rfl, rfl⟩

/-- The second console differs from the first in its settings only, which are `s`, and frames have
the same length in both. -/
def Resettled (s : Settings) (c d : Console) : Prop :=
  d = c.withSettings s ∧ s.cyclesPerFrame = c.settings.cyclesPerFrame

theorem settings_step (c : Console) : c.step.console.settings = c.settings := by
  obtain ⟨cycles, h⟩ := step_console c
  rw [h]

theorem settings_afterCycles (c : Console) (n : Nat) :
    (c.afterCycles n).settings = c.settings := by
  induction n with
  | zero => rfl
  | succ n ih => rw [afterCycles_succ, settings_step, ih]

/-- Consoles with different settings stay together while no cycle notices the difference. -/
theorem lockstep_resettled (s : Settings) : Lockstep (Indifferent s) (Resettled s) where
  step := by
    rintro c d ⟨rfl, hframe⟩ hc
    obtain ⟨hresult, hconsole⟩ := hc.step
    exact ⟨hresult, hconsole, by rw [settings_step]; exact hframe⟩
  halt := by
    rintro c d reason ⟨rfl, hframe⟩
    exact ⟨rfl, hframe⟩
  tick := by
    rintro c d ⟨rfl, hframe⟩
    exact ⟨rfl, hframe⟩
  halted := by
    rintro c d ⟨rfl, -⟩
    rfl
  cyclesPerFrame := by
    rintro c d ⟨rfl, hframe⟩
    exact hframe

/-- Under other settings the console takes the same `n` cycles. -/
structure SameCycles (s : Settings) (c : Console) (n : Nat) : Prop where
  results : ∀ j < n,
    ((c.withSettings s).afterCycles j).step.result = (c.afterCycles j).step.result
  console : ∀ j ≤ n, (c.withSettings s).afterCycles j = (c.afterCycles j).withSettings s
  /-- If these are enough for a frame, the frame is the same. -/
  frame : c.settings.cyclesPerFrame ≤ n →
    (c.withSettings s).runFrame.result = c.runFrame.result ∧
      (c.withSettings s).runFrame.console = c.runFrame.console.withSettings s

theorem sameCycles (hframe : s.cyclesPerFrame = c.settings.cyclesPerFrame)
    (h : Throughout (Indifferent s) c n) : SameCycles s c n := by
  have hR : Resettled s c (c.withSettings s) := ⟨rfl, hframe⟩
  have hpart : ∀ j ≤ n, Throughout (Indifferent s) c j :=
    fun j hj k hk => h k (Nat.lt_of_lt_of_le hk hj)
  constructor
  case results => exact ((lockstep_resettled s).afterCycles n hR h).2
  case console =>
    exact fun j hj => ((lockstep_resettled s).afterCycles j hR (hpart j hj)).1.1
  case frame =>
    intro hn
    have halike := (lockstep_resettled s).runFrame hR (hpart _ hn)
    exact ⟨halike.result, halike.console.1⟩

/-! ### From the cycles of a run to all that might follow -/

theorem stopsFor_afterCycles {reason : Halt} (j : Nat) :
    ∀ {c : Console}, c.machine.StopsFor reason → (c.afterCycles j).machine.StopsFor reason := by
  induction j with
  | zero => intro c h; exact h
  | succ j ih => intro c h; exact ih (stopsFor_step h)

/-- A cycle that faults comes again. -/
theorem fault_afterCycles {fault : Fault} (j : Nat) (h : c.step.result = .error fault) :
    (c.afterCycles j).step.result = .error fault := by
  have hstuck : ¬c.Proceeds := fun ⟨_, hok, _⟩ => by cases h.symm.trans hok
  rw [(afterCycles_stuck j hstuck).2, h]

theorem Executes.throughout {k : Nat} (h : Executes c done d)
    (hdone : ∀ e cycle, cycle ∈ done → e.step.result = .ok cycle → P e)
    (hd : Throughout P d k) : Throughout P c (done.length + k) := by
  induction h with
  | nil c => rwa [List.length_nil, Nat.zero_add]
  | cons h himp hrest ih =>
      have htail := ih (fun e cycle hmem => hdone e cycle (List.mem_cons_of_mem _ hmem)) hd
      rw [List.length_cons, Nat.succ_add]
      intro j hj
      cases j with
      | zero => exact hdone _ _ List.mem_cons_self h
      | succ j => exact htail j (Nat.lt_of_succ_lt_succ hj)

/-- A condition holds wherever a run may take a cycle, if it holds where the run has completed one,
where it has failed, and where a program stops. -/
theorem Ends.throughout (h : Ends strict n c done result d)
    (hdone : ∀ e cycle, cycle ∈ done → e.step.result = .ok cycle → P e)
    (hstop : ∀ e reason, e.machine.StopsFor reason → P e)
    (hfault : ∀ e fault, result = .error (.fault fault) → e.step.result = .error fault → P e) :
    Throughout P c n := by
  cases h with
  | spent hexec hn =>
      rw [← hn]
      exact hexec.throughout hdone (k := 0) fun j hj => absurd hj (Nat.not_lt_zero j)
  | @endMarker done e hexec hn hs =>
      rw [← Nat.add_sub_cancel' (Nat.le_of_lt hn)]
      exact hexec.throughout hdone fun j _ => hstop _ _ (stopsFor_afterCycles j hs)
  | @unknownWord done e hexec hn hs | @strictWord done e hexec hn hs =>
      rw [← Nat.add_sub_cancel' (Nat.le_of_lt hn)]
      exact hexec.throughout (fun e cycle hmem => hdone e cycle (List.mem_append_left _ hmem))
        fun j _ => hstop _ _ (stopsFor_afterCycles j hs)
  | fault hexec hn hf =>
      rw [← Nat.add_sub_cancel' (Nat.le_of_lt hn)]
      exact hexec.throughout hdone fun j _ => hfault _ _ rfl (fault_afterCycles j hf)

/-! ### Runs -/

theorem Executes.afterCycles_eq (h : Executes c done d) : c.afterCycles done.length = d := by
  induction h with
  | nil c => rfl
  | cons h himp hrest ih => exact ih

theorem Executes.withSettings (h : Executes c done d)
    (hP : Throughout (Indifferent s) c done.length) :
    Executes (c.withSettings s) done (d.withSettings s) := by
  induction h with
  | nil c => exact .nil _
  | @cons c d cycle rest h himp hrest ih =>
      obtain ⟨hresult, hconsole⟩ := Indifferent.step hP.head
      refine .cons (hresult.trans h) himp ?_
      rw [hconsole]
      exact ih hP.tail

/-- **A run ends alike under other settings**, after the same cycles, if none of its cycles notices
the difference. -/
theorem Ends.withSettings (h : Ends strict n c done result d)
    (hP : Throughout (Indifferent s) c n) :
    Ends strict n (c.withSettings s) done result (d.withSettings s) := by
  have hpart : ∀ {l : List Cycle}, l.length ≤ n → Throughout (Indifferent s) c l.length :=
    fun hl j hj => hP j (Nat.lt_of_lt_of_le hj hl)
  have hstep : ∀ {l : List Cycle} {e : Console}, Executes c l e → l.length < n →
      Indifferent s e := fun hexec hl => hexec.afterCycles_eq ▸ hP _ hl
  cases h with
  | spent hexec hn => exact .spent (hexec.withSettings (hpart (Nat.le_of_eq hn))) hn
  | endMarker hexec hn hs =>
      exact .endMarker (hexec.withSettings (hpart (Nat.le_of_lt hn))) hn hs
  | unknownWord hexec hn hs hstrict =>
      have hends := Ends.unknownWord (hexec.withSettings (hpart (Nat.le_of_lt hn))) hn hs hstrict
      rw [(hstep hexec hn).step.2] at hends
      exact hends
  | strictWord hexec hn hs hstrict =>
      have hends := Ends.strictWord (hexec.withSettings (hpart (Nat.le_of_lt hn))) hn hs hstrict
      rw [(hstep hexec hn).step.2] at hends
      exact hends
  | fault hexec hn hf =>
      rw [← (hstep hexec hn).step.2]
      exact .fault (hexec.withSettings (hpart (Nat.le_of_lt hn))) hn
        ((hstep hexec hn).step.1.trans hf)

/-- Under other settings the console completes the same cycles in a run, and the run ends alike. -/
structure SameRun (s : Settings) (c : Console) (maxCycles : Int) (strict : Bool)
    (done : List Cycle) : Prop where
  accounted : Accounted (c.withSettings s) maxCycles strict done
    ((c.withSettings s).run maxCycles strict)
  result : ((c.withSettings s).run maxCycles strict).result = (c.run maxCycles strict).result
  console : ((c.withSettings s).run maxCycles strict).console =
    (c.run maxCycles strict).console.withSettings s

theorem sameRun {maxCycles : Int} (hframe : s.cyclesPerFrame = c.settings.cyclesPerFrame)
    (h : Ends strict maxCycles.toNat c done (c.run maxCycles strict).result
      (c.run maxCycles strict).console)
    (hP : Throughout (Indifferent s) c maxCycles.toNat) : SameRun s c maxCycles strict done := by
  have halike := (lockstep_resettled s).run ⟨rfl, hframe⟩ maxCycles strict hP
  have hends := h.withSettings hP
  rw [← halike.result, ← halike.console.1] at hends
  exact ⟨hends.accounted, halike.result, halike.console.1⟩

end Console
end ChipEight
