/-
Two consoles in lockstep.

To compare two consoles is to relate them by something that a cycle keeps.  `Lockstep P R` says
that `R` is such a relation as long as `P` holds of the first console: the next cycle of both
comes out the same, and what they leave behind is related again.

Frames and runs look at nothing but how their cycles come out.  So two related consoles execute
frames and runs alike, provided that `P` holds wherever the first of them takes a cycle.  The
induction over the cycles of a frame and of a run is done here once; whoever compares two
consoles only has to look at a single cycle.
-/
import ChipEight.Proofs.Console.Cycles
import ChipEight.Proofs.Console.Loops

namespace ChipEight

/-- The second reply has the same result as the first, and leaves behind a related console. -/
structure Reply.Alike {ε α : Type} (R : Console → Console → Prop) (r r' : Reply ε α) : Prop where
  result : r'.result = r.result
  console : R r.console r'.console

namespace Console

/-- The console with another machine. -/
def withMachine (c : Console) (m : Machine) : Console := { c with machine := m }

theorem machine_step (c : Console) :
    c.step.console.machine = (c.machine.step c.rules c.source).machine := by
  obtain ⟨cycles, h⟩ := step_console c
  rw [h]

/-- If the cycles of two machines differ in what they make of the machines only, so do the cycles
of a console that has the one or the other. -/
theorem step_withMachine {c : Console} {m m' : Machine}
    (h : m.step c.rules c.source = { c.machine.step c.rules c.source with machine := m' }) :
    (c.withMachine m).step.result = c.step.result ∧
      (c.withMachine m).step.console = c.step.console.withMachine m' := by
  rcases ho : c.machine.step c.rules c.source with ⟨fault | cycle, n, source⟩
  · rw [ho] at h
    rw [step_of_error ho, step_of_error (c := c.withMachine m) h]
    exact ⟨rfl, rfl⟩
  · rw [ho] at h
    rw [step_of_ok ho, step_of_ok (c := c.withMachine m) h]
    exact ⟨rfl, rfl⟩

/-- Consoles related by `R` stay together, as long as `P` holds of the first one. -/
structure Lockstep (P : Console → Prop) (R : Console → Console → Prop) : Prop where
  step : ∀ {c d}, R c d → P c → c.step.Alike R d.step
  halt : ∀ {c d} reason, R c d → R (c.halt reason).1 (d.halt reason).1
  tick : ∀ {c d}, R c d → R c.tick d.tick
  halted : ∀ {c d}, R c d → d.halted = c.halted
  cyclesPerFrame : ∀ {c d}, R c d → d.settings.cyclesPerFrame = c.settings.cyclesPerFrame

/-- A condition holds wherever the first `n` cycles of a console are taken. -/
def Throughout (P : Console → Prop) (c : Console) (n : Nat) : Prop :=
  ∀ j < n, P (c.afterCycles j)

section Throughout

variable {P : Console → Prop} {c : Console} {n : Nat}

theorem Throughout.head (h : Throughout P c (n + 1)) : P c := h 0 (Nat.succ_pos n)

theorem Throughout.tail (h : Throughout P c (n + 1)) : Throughout P c.step.console n :=
  fun j hj => h (j + 1) (Nat.succ_lt_succ hj)

end Throughout

/-- A cycle that reports the end marker is at the end marker. -/
theorem stopsFor_endMarker {c : Console} {cycle : Cycle} (h : c.step.result = .ok cycle)
    (h0 : cycle.word = 0) : c.machine.StopsFor .endMarker := by
  obtain ⟨hpc, -, hword⟩ := cycle_of_step h
  have hlt := c.machine.pc.isLt
  exact ⟨by omega, hword ▸ h0⟩

namespace Lockstep

variable {P : Console → Prop} {R : Console → Console → Prop}

/-- **Cycles stay together.** -/
theorem afterCycles (h : Lockstep P R) :
    ∀ (n : Nat) {c d : Console}, R c d → Throughout P c n →
      R (c.afterCycles n) (d.afterCycles n) ∧
        ∀ j < n, (d.afterCycles j).step.result = (c.afterCycles j).step.result := by
  intro n
  induction n with
  | zero => intro c d hR _; exact ⟨hR, fun j hj => absurd hj (Nat.not_lt_zero j)⟩
  | succ n ih =>
      intro c d hR hP
      have hstep := h.step hR hP.head
      obtain ⟨hlast, hresults⟩ := ih hstep.console hP.tail
      refine ⟨hlast, fun j hj => ?_⟩
      cases j with
      | zero => exact hstep.result
      | succ j => exact hresults j (Nat.lt_of_succ_lt_succ hj)

/-! ### Frames -/

/-- Two frames under way, or two that came to their end, are at the same point. -/
structure SamePoint (R : Console → Console → Prop) (p q : Option Fault × Progress) : Prop where
  fault : q.1 = p.1
  done : q.2.done = p.2.done
  console : R p.2.console q.2.console

/-- **Frames stay together.** -/
theorem frameCycles (h : Lockstep P R) :
    ∀ (n : Nat) {p q : Progress}, SamePoint R (none, p) (none, q) →
      Throughout P p.console n → SamePoint R (frameCycles n p) (frameCycles n q) := by
  intro n
  induction n with
  | zero => intro p q hpq _; exact hpq
  | succ n ih =>
      intro p q hpq hP
      have hdone : q.done = p.done := hpq.done
      have hstep := h.step hpq.console hP.head
      cases hp : p.console.step.result with
      | error fault =>
          rw [frameCycles_of_fault n hp, frameCycles_of_fault n (hstep.result.trans hp)]
          exact ⟨rfl, hdone, hstep.console⟩
      | ok cycle =>
          have hnext : SamePoint R (none, p.next cycle) (none, q.next cycle) :=
            ⟨rfl, congrArg (cycle :: ·) hdone, hstep.console⟩
          rw [frameCycles_of_ok n hp, frameCycles_of_ok n (hstep.result.trans hp)]
          split
          · exact ⟨rfl, hnext.done, h.halt _ hnext.console⟩
          split
          · exact ⟨rfl, hnext.done, h.halt _ hnext.console⟩
          split
          · exact hnext
          · exact ih hnext hP.tail

theorem runFrame (h : Lockstep P R) {c d : Console} (hR : R c d)
    (hP : Throughout P c c.settings.cyclesPerFrame) : c.runFrame.Alike R d.runFrame := by
  rw [Console.runFrame, Console.runFrame, h.halted hR, h.cyclesPerFrame hR]
  split
  · exact ⟨rfl, hR⟩
  · have hpoint := h.frameCycles c.settings.cyclesPerFrame (p := ⟨c, [], []⟩) (q := ⟨d, [], []⟩)
      ⟨rfl, rfl, hR⟩ hP
    generalize Console.frameCycles c.settings.cyclesPerFrame ⟨c, [], []⟩ = p at hpoint ⊢
    generalize Console.frameCycles c.settings.cyclesPerFrame ⟨d, [], []⟩ = q at hpoint ⊢
    obtain ⟨fault, p⟩ := p
    obtain ⟨fault', q⟩ := q
    obtain rfl : fault' = fault := hpoint.fault
    cases fault' with
    | some fault => exact ⟨rfl, hpoint.console⟩
    | none =>
        have hdone : q.done = p.done := hpoint.done
        exact ⟨by simp only [hdone], h.tick hpoint.console⟩

/-! ### Runs -/

theorem alike_fail {s t : RunState} (hR : R s.console t.console) (f : Failure) :
    (s.fail f).Alike R (t.fail f) := ⟨rfl, hR⟩

theorem alike_finish (h : Lockstep P R) {s t : RunState} (hR : R s.console t.console)
    (hcycles : t.cycles = s.cycles) (hlast : t.last = s.last) (reason : Halt) :
    (s.finish reason).Alike R (t.finish reason) :=
  ⟨by simp only [RunState.finish, hcycles, hlast], h.halt reason hR⟩

/-- **Runs stay together.** -/
theorem runCycles (h : Lockstep P R) (strict : Bool) :
    ∀ (n : Nat) {s t : RunState}, R s.console t.console → t.cycles = s.cycles →
      t.last = s.last → Throughout P s.console n →
      (runCycles strict n s).Alike R (runCycles strict n t) := by
  intro n
  induction n with
  | zero =>
      intro s t hR hcycles hlast _
      exact ⟨by simp only [Console.runCycles, RunState.spent, hcycles, hlast], hR⟩
  | succ n ih =>
      intro s t hR hcycles hlast hP
      have hstep := h.step hR hP.head
      cases hs : s.console.step.result with
      | error fault =>
          rw [runCycles_of_fault strict n hs,
            runCycles_of_fault strict n (hstep.result.trans hs)]
          exact alike_fail hstep.console (.fault fault)
      | ok cycle =>
          have ht := hstep.result.trans hs
          -- A run looks for the end marker before the cycle; the cycle would have reported it.
          by_cases h0 : cycle.word = 0
          · rw [runCycles_of_endMarker strict n (stopsFor_endMarker hs h0),
              runCycles_of_endMarker strict n (stopsFor_endMarker ht h0)]
            exact h.alike_finish hR hcycles hlast .endMarker
          · rw [runCycles_of_ok strict n hs (fun hw => h0 ((cycle_of_step hs).2.2.trans hw)),
              runCycles_of_ok strict n ht (fun hw => h0 ((cycle_of_step ht).2.2.trans hw))]
            have hcount : (t.next cycle).cycles = (s.next cycle).cycles :=
              congrArg (· + 1) hcycles
            split
            · exact ih hstep.console hcount rfl hP.tail
            split
            · exact alike_fail hstep.console _
            · exact h.alike_finish hstep.console hcount rfl .unknownWord

theorem run (h : Lockstep P R) {c d : Console} (hR : R c d) (maxCycles : Int) (strict : Bool)
    (hP : Throughout P c maxCycles.toNat) :
    (c.run maxCycles strict).Alike R (d.run maxCycles strict) :=
  h.runCycles strict maxCycles.toNat hR rfl rfl hP

end Lockstep
end Console
end ChipEight
