/-
A frame is a run followed by a tick.

The loop of a frame and the loop of a run are written differently.  A run looks for the end
marker before each cycle and never executes it, where a frame executes it; and a frame ends
as soon as an instruction waits for a key, where a run goes on repeating that instruction
until its cycles are spent.  Neither difference reaches the program.  The cycle at the end
marker changes nothing but the record of the last word, and neither does a cycle that waits,
however often it is repeated.

`Matches` says what the two loops have in common when they start from the same console with the
same number of cycles to go, and it is kept by every round.
-/
import ChipEight.Proofs.Console.Cycles
import ChipEight.Proofs.Console.Loops

namespace ChipEight.Console

/-- A frame and a run have the same effect, up to the tick with which a frame ends. -/
structure SameEffect (frame : Reply Fault (List Cycle)) (run : Reply Failure RunResult) :
    Prop where
  /-- The one fails if and only if the other does, and with the same fault. -/
  fault_iff : ∀ fault, frame.result = .error fault ↔ run.result = .error (.fault fault)
  /-- After a fault nothing differs; in particular the timers are ticked in neither. -/
  console_of_fault : ∀ fault, frame.result = .error fault → frame.console = run.console
  /-- Otherwise the run succeeds as well. -/
  run_ok : ∀ cycles, frame.result = .ok cycles → ∃ report, run.result = .ok report
  /-- And then, once the timers are ticked, a program cannot tell the consoles apart. -/
  agree : ∀ cycles, frame.result = .ok cycles → run.console.tick.Agree frame.console

/-! ### The two loops -/

/-- The loop of a frame and the loop of a run came to the same. -/
inductive Matches : Option Fault × Progress → Reply Failure RunResult → Prop
  /-- Both ended with a fault. -/
  | fault {fault : Fault} {p : Progress} {r : Reply Failure RunResult}
      (hr : r.result = .error (.fault fault)) (hc : p.console = r.console) :
      Matches (some fault, p) r
  /-- Neither ended with a fault. -/
  | ok {p : Progress} {r : Reply Failure RunResult} (hr : ∃ report, r.result = .ok report)
      (hc : r.console.Agree p.console) : Matches (none, p) r

/-- **A run that waits for a key gets nowhere, however long it goes on.**  It spends its cycles on
the instruction that waits. -/
theorem runCycles_of_waiting {cycle : Cycle} (strict : Bool) (n : Nat) :
    ∀ s : RunState, s.console.step.result = .ok cycle → cycle.waiting = true →
      (runCycles strict n s).result =
          .ok ⟨s.cycles + n, none, if n = 0 then s.last else some cycle⟩ ∧
        (runCycles strict n s).console = s.console.afterCycles n := by
  induction n with
  | zero =>
      intro s _ _
      exact ⟨rfl, rfl⟩
  | succ n ih =>
      intro s h hw
      obtain ⟨-, hagain⟩ := agree_of_idle h (.inr hw)
      obtain ⟨hresult, hconsole⟩ := ih (s.next cycle) hagain hw
      have hcount : s.cycles + 1 + n = s.cycles + (n + 1) := by omega
      rw [runCycles_of_implemented strict n h (isImplemented_of_waiting h hw), hresult]
      refine ⟨?_, hconsole⟩
      simp [RunState.next, hcount]

/-- Cycles that get nowhere leave a console that the program cannot tell apart. -/
theorem agree_afterCycles {c : Console} {cycle : Cycle} (h : c.step.result = .ok cycle)
    (hidle : cycle.isImplemented = false ∨ cycle.waiting = true) (n : Nat) :
    c.Agree (c.afterCycles n) := by
  cases n with
  | zero => exact Agree.refl c
  | succ n =>
      rw [(afterCycles_of_idle h hidle n).2]
      exact ⟨c.machine.nextWord, c.cycles + (n + 1), rfl⟩

/-- **Each round keeps the two loops together.** -/
theorem matches_cycles (n : Nat) :
    ∀ (p : Progress) (s : RunState), s.console = p.console →
      Matches (frameCycles n p) (runCycles false n s) := by
  induction n with
  | zero =>
      intro p s hs
      exact .ok ⟨_, rfl⟩ (.of_eq hs)
  | succ n ih =>
      intro p s hs
      have hnext : s.console.step.console = p.console.step.console := by rw [hs]
      rcases round_cases s.console with ⟨fault, hfault⟩ | ⟨reason, hstop⟩ | ⟨cycle, hok, himp⟩
      · rw [runCycles_of_fault false n hfault]
        rw [hs] at hfault
        rw [frameCycles_of_fault n hfault]
        exact .fault rfl hnext.symm
      · have hstop' : p.console.machine.StopsFor reason := hs ▸ hstop
        rw [frameCycles_of_stop n hstop']
        cases reason with
        | endMarker =>
            -- only the frame has executed the marker
            rw [runCycles_of_endMarker false n hstop]
            have hmark := (agree_of_stop hstop).trans (.of_eq hnext)
            exact .ok ⟨_, rfl⟩ (hmark.halt .endMarker)
        | unknownWord =>
            rw [runCycles_of_unknownWord false n hstop]
            exact .ok ⟨_, rfl⟩ ((Agree.of_eq hnext).halt .unknownWord)
      · rw [runCycles_of_implemented false n hok himp]
        have hok' : p.console.step.result = .ok cycle := hs ▸ hok
        cases hw : cycle.waiting with
        | true =>
            -- only the run goes on
            obtain ⟨-, hagain⟩ := agree_of_idle hok (.inr hw)
            obtain ⟨hreport, hrun⟩ := runCycles_of_waiting false n (s.next cycle) hagain hw
            have hagree := (agree_afterCycles hagain (.inr hw) n).symm
            rw [frameCycles_of_waiting n hok' hw]
            refine .ok ⟨_, hreport⟩ ?_
            rw [hrun]
            exact hagree.trans (.of_eq hnext)
        | false =>
            rw [frameCycles_of_implemented n hok' himp hw]
            exact ih (p.next cycle) (s.next cycle) hnext

/-! ### A frame and a run -/

/-- **A frame does what a run of as many cycles and one tick of the timers do.**  They may
differ in the record of the last word and in the count of cycles, and if there is a fault they
do not even differ in these. -/
theorem sameEffect_runFrame (c : Console) (hc : c.halted = none) :
    SameEffect c.runFrame (c.run c.settings.cyclesPerFrame false) := by
  have hmatch := matches_cycles c.settings.cyclesPerFrame ⟨c, [], []⟩ ⟨c, 0, none, []⟩ rfl
  rw [runFrame, if_neg (by simp [hc]), run, Int.toNat_natCast]
  generalize runCycles false c.settings.cyclesPerFrame ⟨c, 0, none, []⟩ = r at hmatch ⊢
  generalize frameCycles c.settings.cyclesPerFrame ⟨c, [], []⟩ = f at hmatch ⊢
  cases hmatch with
  | fault hr hconsole =>
      refine ⟨fun fault => ⟨fun h => ?_, fun h => ?_⟩, fun _ _ => hconsole,
        (fun _ h => nomatch h), (fun _ h => nomatch h)⟩
      · obtain rfl := Except.error.inj h
        exact hr
      · rw [hr] at h
        obtain rfl := Failure.fault.inj (Except.error.inj h)
        rfl
  | ok hreport hagree =>
      refine ⟨fun fault => ⟨(fun h => nomatch h), fun h => ?_⟩, (fun _ h => nomatch h),
        fun _ _ => hreport, fun _ _ => hagree.tick⟩
      obtain ⟨report, hr⟩ := hreport
      rw [hr] at h
      cases h

/-- A program that waits for a key at once: a frame takes one cycle, and a run takes ten. -/
theorem sameEffect_runFrame_awaitKey :
    let c := ((Console.new {} .zeros).load [0xF0, 0x0A]).console
    c.halted = none ∧ SameEffect c.runFrame (c.run c.settings.cyclesPerFrame false) :=
  ⟨rfl, sameEffect_runFrame _ rfl⟩

end ChipEight.Console
