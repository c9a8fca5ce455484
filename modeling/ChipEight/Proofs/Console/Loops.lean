/-
One round of a frame and one round of a run.

Frames and runs repeat the cycle of a console, and what a round does depends only on how that
cycle comes out: it faults, it is at a word that stops the program, it waits for a key, or it
is executed.  `round_cases` makes the distinction, and there is one equation for each case and
each of the two loops.  Whatever is proved about a loop is proved by induction with these.
-/
import ChipEight.Proofs.Console.Step

namespace ChipEight.Console

/-! ### How a round comes out -/

/-- A cycle faults, or stops the program, or executes an instruction. -/
theorem round_cases (c : Console) :
    (∃ fault, c.step.result = .error fault) ∨ (∃ reason, c.machine.StopsFor reason) ∨
      ∃ cycle, c.step.result = .ok cycle ∧ cycle.isImplemented = true := by
  cases h : c.step.result with
  | error fault => exact .inl ⟨fault, rfl⟩
  | ok cycle =>
      cases himp : cycle.isImplemented with
      | true => exact .inr (.inr ⟨cycle, rfl, himp⟩)
      | false => exact .inr (.inl ⟨_, stopsFor_of_unknown h himp⟩)

/-- A run that looks ahead at the last position of memory finds what the cycle would find. -/
theorem step_of_peek_error {c : Console} {fault : Fault} (h : c.peek = .error fault) :
    c.step = ⟨.error fault, c, []⟩ := by
  obtain ⟨hpc, rfl⟩ := peek_eq_error_iff.mp h
  rw [step_of_error (Machine.step_pastEnd hpc), Machine.cycleLog, Machine.fetch_at_end hpc]

/-- A cycle that faults is not at the end marker. -/
theorem nextWord_ne_zero_of_fault {c : Console} {fault : Fault}
    (h : c.step.result = .error fault) (hpc : c.machine.pc.toNat ≠ 0xFFF) :
    c.machine.nextWord ≠ 0 := by
  intro h0
  rw [step_result, Machine.step_unknown hpc (by rw [h0, Word.decode_zero])] at h
  cases h

theorem nextWord_ne_zero_of_implemented {c : Console} {cycle : Cycle}
    (h : c.step.result = .ok cycle) (himp : cycle.isImplemented = true) :
    c.machine.nextWord ≠ 0 := by
  intro h0
  rw [isImplemented_of_step h, (cycle_of_step h).2.2, h0] at himp
  exact absurd himp (by decide)

/-- An instruction that waits is an instruction. -/
theorem isImplemented_of_waiting {c : Console} {cycle : Cycle}
    (h : c.step.result = .ok cycle) (hw : cycle.waiting = true) :
    cycle.isImplemented = true := by
  rw [step_result] at h
  have hsucceeds := Machine.succeeds_of_step h
  generalize c.machine.step c.rules c.source = o at hsucceeds
  cases hsucceeds with
  | unknown hpc hd => cases hw
  | executed hpc hins he => rfl

/-! ### Frames -/

section Frames

variable {p : Progress} (n : Nat)

/-- The progress after one more cycle. -/
def Progress.next (p : Progress) (cycle : Cycle) : Progress :=
  ⟨p.console.step.console, cycle :: p.done, p.console.step.log.reverse ++ p.log⟩

theorem frameCycles_of_fault {fault : Fault} (h : p.console.step.result = .error fault) :
    frameCycles (n + 1) p =
      (some fault, ⟨p.console.step.console, p.done, p.console.step.log.reverse ++ p.log⟩) := by
  obtain ⟨c, done, log⟩ := p
  rcases hs : c.step with ⟨result, d, noted⟩
  simp only [hs] at h
  subst h
  simp only [frameCycles, hs]

theorem frameCycles_of_ok {cycle : Cycle} (h : p.console.step.result = .ok cycle) :
    frameCycles (n + 1) p =
      if cycle.isEndOfProgram then (none, (p.next cycle).halt .endMarker)
      else if !cycle.isImplemented then (none, (p.next cycle).halt .unknownWord)
      else if cycle.waiting then (none, p.next cycle)
      else frameCycles n (p.next cycle) := by
  obtain ⟨c, done, log⟩ := p
  rcases hs : c.step with ⟨result, d, noted⟩
  simp only [hs] at h
  subst h
  simp only [frameCycles, Progress.next, hs]

theorem frameCycles_of_stop {reason : Halt} (h : p.console.machine.StopsFor reason) :
    frameCycles (n + 1) p =
      let m := p.console.machine
      (none, (p.next ⟨m.pc, m.nextWord, false, false, false⟩).halt reason) := by
  rw [frameCycles_of_ok n (by rw [step_of_stop h])]
  cases reason with
  | endMarker => rw [if_pos (by simpa [Cycle.isEndOfProgram] using h.2)]
  | unknownWord => rw [if_neg (by simpa [Cycle.isEndOfProgram] using h.2.1), if_pos (by rfl)]

theorem frameCycles_of_waiting {cycle : Cycle} (h : p.console.step.result = .ok cycle)
    (hw : cycle.waiting = true) : frameCycles (n + 1) p = (none, p.next cycle) := by
  have himp := isImplemented_of_waiting h hw
  have hne := nextWord_ne_zero_of_implemented h himp
  rw [← (cycle_of_step h).2.2] at hne
  rw [frameCycles_of_ok n h, if_neg (by simpa [Cycle.isEndOfProgram] using hne),
    if_neg (by simp [himp]), if_pos hw]

theorem frameCycles_of_implemented {cycle : Cycle} (h : p.console.step.result = .ok cycle)
    (himp : cycle.isImplemented = true) (hw : cycle.waiting = false) :
    frameCycles (n + 1) p = frameCycles n (p.next cycle) := by
  have hne := nextWord_ne_zero_of_implemented h himp
  rw [← (cycle_of_step h).2.2] at hne
  rw [frameCycles_of_ok n h, if_neg (by simpa [Cycle.isEndOfProgram] using hne),
    if_neg (by simp [himp]), if_neg (by simp [hw])]

end Frames

/-! ### Runs -/

section Runs

variable (strict : Bool) (n : Nat) {s : RunState}

/-- The run after one more cycle. -/
def RunState.next (s : RunState) (cycle : Cycle) : RunState :=
  ⟨s.console.step.console, s.cycles + 1, some cycle, s.console.step.log.reverse ++ s.log⟩

theorem runCycles_of_fault {fault : Fault} (h : s.console.step.result = .error fault) :
    runCycles strict (n + 1) s =
      RunState.fail
        ⟨s.console.step.console, s.cycles, s.last, s.console.step.log.reverse ++ s.log⟩
        (.fault fault) := by
  obtain ⟨c, cycles, last, log⟩ := s
  cases hpeek : c.peek with
  | error fault' =>
      have hs := step_of_peek_error hpeek
      simp only [hs] at h ⊢
      obtain rfl := Except.error.inj h
      simp only [runCycles, hpeek]
      rfl
  | ok word =>
      obtain ⟨hpc, hword⟩ := peek_eq_ok_iff.mp hpeek
      have hne : ¬word = 0 := by
        rw [hword]
        exact nextWord_ne_zero_of_fault h hpc
      rcases hs : c.step with ⟨result, d, noted⟩
      simp only [hs] at h ⊢
      subst h
      simp only [runCycles, hpeek, if_neg hne, hs]

theorem runCycles_of_endMarker (h : s.console.machine.StopsFor .endMarker) :
    runCycles strict (n + 1) s = s.finish .endMarker := by
  obtain ⟨c, cycles, last, log⟩ := s
  have hpeek : c.peek = .ok 0 := peek_eq_ok_iff.mpr ⟨h.pc_ne, h.2.symm⟩
  simp only [runCycles, hpeek, if_true]

theorem runCycles_of_ok {cycle : Cycle} (h : s.console.step.result = .ok cycle)
    (hne : s.console.machine.nextWord ≠ 0) :
    runCycles strict (n + 1) s =
      if cycle.isImplemented then runCycles strict n (s.next cycle)
      else if strict then
        (s.next cycle).fail (.unknownWord cycle.word.toNat cycle.address.toNat)
      else (s.next cycle).finish .unknownWord := by
  obtain ⟨c, cycles, last, log⟩ := s
  have hpeek : c.peek = .ok c.machine.nextWord :=
    peek_eq_ok_iff.mpr ⟨(cycle_of_step h).1, rfl⟩
  rcases hs : c.step with ⟨result, d, noted⟩
  simp only [hs] at h hne
  subst h
  simp only [runCycles, RunState.next, hpeek, if_neg hne, hs]

theorem runCycles_of_unknownWord (h : s.console.machine.StopsFor .unknownWord) :
    runCycles strict (n + 1) s =
      let m := s.console.machine
      if strict then
        (s.next ⟨m.pc, m.nextWord, false, false, false⟩).fail
          (.unknownWord m.nextWord.toNat m.pc.toNat)
      else (s.next ⟨m.pc, m.nextWord, false, false, false⟩).finish .unknownWord := by
  rw [runCycles_of_ok strict n (by rw [step_of_stop h]) h.2.1, if_neg Bool.false_ne_true]

theorem runCycles_of_implemented {cycle : Cycle} (h : s.console.step.result = .ok cycle)
    (himp : cycle.isImplemented = true) :
    runCycles strict (n + 1) s = runCycles strict n (s.next cycle) := by
  rw [runCycles_of_ok strict n h (nextWord_ne_zero_of_implemented h himp), if_pos himp]

end Runs

end ChipEight.Console
