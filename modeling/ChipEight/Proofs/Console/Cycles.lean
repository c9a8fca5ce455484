/-
Several cycles in a row.

`afterCycles` is the console after a number of cycles, whatever they come to.  `Executes` is about
cycles that all execute an instruction: it says what they report and where they lead.  That is
how far a run goes before it ends, and each of these cycles has been counted.
-/
import ChipEight.Proofs.Console.Step

namespace ChipEight.Console

/-- The console after a number of cycles, whether they succeed or not. -/
def afterCycles : Console → Nat → Console
  | c, 0 => c
  | c, n + 1 => c.step.console.afterCycles n

/-- The next cycles of a console all execute an instruction; the list says what they report,
and the second console is the one after them. -/
inductive Executes : Console → List Cycle → Console → Prop
  | nil (c : Console) : Executes c [] c
  | cons {c d : Console} {cycle : Cycle} {rest : List Cycle} (h : c.step.result = .ok cycle)
      (himp : cycle.isImplemented = true) (hrest : Executes c.step.console rest d) :
      Executes c (cycle :: rest) d

variable {c d : Console} {done : List Cycle}

theorem afterCycles_succ (c : Console) (n : Nat) :
    c.afterCycles (n + 1) = (c.afterCycles n).step.console := by
  induction n generalizing c with
  | zero => rfl
  | succ n ih => rw [afterCycles, ih, afterCycles]

/-- A cycle that succeeds is counted. -/
theorem cycles_step_of_ok {cycle : Cycle} (h : c.step.result = .ok cycle) :
    c.step.console.cycles = c.cycles + 1 := by
  rw [step_result] at h
  rcases hs : c.machine.step c.rules c.source with ⟨result, m, source⟩
  rw [hs] at h
  obtain rfl : result = .ok cycle := h
  rw [step_of_ok hs]

/-- A cycle that fails is not counted. -/
theorem cycles_step_of_error {fault : Fault} (h : c.step.result = .error fault) :
    c.step.console.cycles = c.cycles := by
  rw [step_result] at h
  rcases hs : c.machine.step c.rules c.source with ⟨result, m, source⟩
  rw [hs] at h
  obtain rfl : result = .error fault := h
  rw [step_of_error hs]

/-- The console after a number of cycles that got nowhere: they are counted, and the word is noted
as the last one. -/
def idled (c : Console) (n : Nat) : Console :=
  { c with machine := c.machine.latch c.machine.nextWord, cycles := c.cycles + n }

/-- **A cycle that gets nowhere comes out the same however often it is repeated.** -/
theorem afterCycles_of_idle {cycle : Cycle} (h : c.step.result = .ok cycle)
    (hidle : cycle.isImplemented = false ∨ cycle.waiting = true) (n : Nat) :
    (c.afterCycles n).step.result = .ok cycle ∧ c.afterCycles (n + 1) = c.idled (n + 1) := by
  have hm : (c.machine.step c.rules c.source).result = .ok cycle := by
    rw [← step_result]
    exact h
  induction n with
  | zero => exact ⟨h, by rw [afterCycles, afterCycles, step_of_idle h hidle]; rfl⟩
  | succ n ih =>
      have hagain := step_of_ok (c := c.idled (n + 1)) (Machine.step_repeat hm hidle)
      rw [afterCycles_succ c (n + 1), ih.2, hagain]
      exact ⟨rfl, rfl⟩

namespace Executes

/-- **Cycles that were executed are counted, each of them once.** -/
theorem cycles_eq (h : Executes c done d) : d.cycles = c.cycles + done.length := by
  induction h with
  | nil c => rfl
  | cons h himp hrest ih =>
      rw [ih, cycles_step_of_ok h, List.length_cons]
      omega

theorem halted_eq (h : Executes c done d) : d.halted = c.halted := by
  induction h with
  | nil c => rfl
  | @cons c d cycle rest h himp hrest ih => rw [ih, halted_step]

theorem implemented (h : Executes c done d) : ∀ cycle ∈ done, cycle.isImplemented = true := by
  induction h with
  | nil c => simp
  | cons h himp hrest ih => exact List.forall_mem_cons.mpr ⟨himp, ih⟩

end Executes
end ChipEight.Console
