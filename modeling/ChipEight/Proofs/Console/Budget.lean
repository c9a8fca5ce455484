/-
A run and its cycles.

A run may be cut anywhere.  What it has done so far is in the console, and all that it carries
along besides is its report: a run of some cycles, followed by another run if the first one has
spent its cycles, comes to the same as one run of as many cycles (`runCycles_add`).

A run is also accounted for.  `Ends` says in which ways it can end, each with the cycles that were
completed on the way: all of them executed an instruction, except that the last one may have
been the one at a word without an instruction.  The end marker and a cycle that fails are not
among them.  The report and the count of cycles are read off that list.
-/
import ChipEight.Proofs.Console.Cycles
import ChipEight.Proofs.Console.Loops

namespace ChipEight

/-- The report of two runs in a row; the second one says how they ended. -/
def RunResult.followedBy (first second : RunResult) : RunResult :=
  ⟨first.cycles + second.cycles, second.halt, second.last.or first.last⟩

/-- A run, and if it has spent its cycles another one after it. -/
def Reply.thenRun (first : Reply Failure RunResult) (maxCycles : Int) (strict : Bool) :
    Reply Failure RunResult :=
  match first.result with
  | .ok ⟨cycles, none, last⟩ =>
    let second := first.console.run maxCycles strict
    ⟨second.result.map (RunResult.followedBy ⟨cycles, none, last⟩), second.console,
      first.log ++ second.log⟩
  | _ => first

namespace Console

variable {c : Console} {strict : Bool}

/-! ### Cutting a run in two -/

/-- A run that is about to begin. -/
def RunState.fresh (c : Console) : RunState := ⟨c, 0, none, []⟩

/-- The reply of a run that is under way, given how it would go on if it began now. -/
def RunState.resume (s : RunState) (rest : Reply Failure RunResult) : Reply Failure RunResult :=
  ⟨rest.result.map (RunResult.followedBy ⟨s.cycles, none, s.last⟩), rest.console,
    s.log.reverse ++ rest.log⟩

/-- What a run has done before a cycle can be added to its report before or after it. -/
theorem resume_next (s : RunState) (cycle : Cycle) (rest : Reply Failure RunResult) :
    (s.next cycle).resume rest =
      s.resume (((RunState.fresh s.console).next cycle).resume rest) := by
  obtain ⟨result, d, log⟩ := rest
  cases result with
  | error f => simp [RunState.resume, RunState.next, RunState.fresh, Except.map]
  | ok report =>
      simp [RunState.resume, RunState.next, RunState.fresh, Except.map, RunResult.followedBy,
        Nat.add_assoc]

/-- **A run goes on as if it had just begun.** -/
theorem runCycles_eq_resume (strict : Bool) (n : Nat) :
    ∀ s : RunState,
      runCycles strict n s = s.resume (runCycles strict n (.fresh s.console)) := by
  induction n with
  | zero =>
      intro s
      simp [runCycles, RunState.spent, RunState.resume, RunState.fresh, Except.map,
        RunResult.followedBy]
  | succ n ih =>
      intro s
      rcases round_cases s.console with ⟨fault, hfault⟩ | ⟨reason, hstop⟩ | ⟨cycle, hok, himp⟩
      · rw [runCycles_of_fault strict n hfault,
          runCycles_of_fault (s := .fresh s.console) strict n hfault]
        simp [RunState.fail, RunState.resume, RunState.fresh, Except.map]
      · cases reason with
        | endMarker =>
            rw [runCycles_of_endMarker strict n hstop,
              runCycles_of_endMarker (s := .fresh s.console) strict n hstop]
            simp [RunState.finish, RunState.resume, RunState.fresh, Except.map,
              RunResult.followedBy, halt]
        | unknownWord =>
            rw [runCycles_of_unknownWord strict n hstop,
              runCycles_of_unknownWord (s := .fresh s.console) strict n hstop]
            cases strict with
            | true =>
                simp [RunState.fail, RunState.next, RunState.resume, RunState.fresh, Except.map]
            | false =>
                simp [RunState.finish, RunState.next, RunState.resume, RunState.fresh,
                  Except.map, RunResult.followedBy, halt]
      · rw [runCycles_of_implemented strict n hok himp,
          runCycles_of_implemented (s := .fresh s.console) strict n hok himp,
          ih (s.next cycle), ih ((RunState.fresh s.console).next cycle), resume_next]
        rfl

/-- **A run of some cycles and then of more is one run.** -/
theorem runCycles_add (strict : Bool) (b : Nat) :
    ∀ (a : Nat) (s : RunState),
      runCycles strict (a + b) s = (runCycles strict a s).thenRun b strict := by
  intro a
  induction a with
  | zero =>
      intro s
      rw [Nat.zero_add, runCycles_eq_resume]
      simp [runCycles, RunState.spent, Reply.thenRun, RunState.resume, RunState.fresh, run]
  | succ a ih =>
      intro s
      rw [Nat.add_right_comm]
      rcases round_cases s.console with ⟨fault, hfault⟩ | ⟨reason, hstop⟩ | ⟨cycle, hok, himp⟩
      · rw [runCycles_of_fault strict (a + b) hfault, runCycles_of_fault strict a hfault]
        rfl
      · cases reason with
        | endMarker =>
            rw [runCycles_of_endMarker strict (a + b) hstop,
              runCycles_of_endMarker strict a hstop]
            rfl
        | unknownWord =>
            rw [runCycles_of_unknownWord strict (a + b) hstop,
              runCycles_of_unknownWord strict a hstop]
            cases strict <;> rfl
      · rw [runCycles_of_implemented strict (a + b) hok himp,
          runCycles_of_implemented strict a hok himp]
        exact ih (s.next cycle)

/-! ### How a run ends -/

/-- What a cycle reports at a word without an instruction. -/
def unknownCycle (c : Console) : Cycle :=
  ⟨c.machine.pc, c.machine.nextWord, false, false, false⟩

/-- How a run of at most `n` cycles ends: the cycles that it has completed, its result, and the
console that it leaves behind. -/
inductive Ends (strict : Bool) (n : Nat) (c : Console) :
    List Cycle → Except Failure RunResult → Console → Prop
  /-- The cycles are spent. -/
  | spent {done : List Cycle} {d : Console} (hdone : Executes c done d) (hn : done.length = n) :
      Ends strict n c done (.ok ⟨done.length, none, done.getLast?⟩) d
  /-- The end marker comes next; it is not executed. -/
  | endMarker {done : List Cycle} {d : Console} (hdone : Executes c done d)
      (hn : done.length < n) (hstop : d.machine.StopsFor .endMarker) :
      Ends strict n c done (.ok ⟨done.length, some .endMarker, done.getLast?⟩)
        (d.halt .endMarker).1
  /-- The last cycle is at a word without an instruction. -/
  | unknownWord {done : List Cycle} {d : Console} (hdone : Executes c done d)
      (hn : done.length < n) (hstop : d.machine.StopsFor .unknownWord) (hs : strict = false) :
      Ends strict n c (done ++ [d.unknownCycle])
        (.ok ⟨done.length + 1, some .unknownWord, some d.unknownCycle⟩)
        (d.step.console.halt .unknownWord).1
  /-- The last cycle is at a word without an instruction, and the run is strict. -/
  | strictWord {done : List Cycle} {d : Console} (hdone : Executes c done d)
      (hn : done.length < n) (hstop : d.machine.StopsFor .unknownWord) (hs : strict = true) :
      Ends strict n c (done ++ [d.unknownCycle])
        (.error (.unknownWord d.machine.nextWord.toNat d.machine.pc.toNat)) d.step.console
  /-- The next cycle fails; it is not completed. -/
  | fault {done : List Cycle} {d : Console} {fault : Fault} (hdone : Executes c done d)
      (hn : done.length < n) (hfault : d.step.result = .error fault) :
      Ends strict n c done (.error (.fault fault)) d.step.console

/-- The report on some cycles, with one more in front. -/
theorem followedBy_cons (cycle : Cycle) (done : List Cycle) (reason : Option Halt) :
    RunResult.followedBy ⟨1, none, some cycle⟩ ⟨done.length, reason, done.getLast?⟩ =
      ⟨(cycle :: done).length, reason, (cycle :: done).getLast?⟩ := by
  rw [RunResult.followedBy, List.length_cons, Nat.add_comm, List.getLast?_cons]
  cases done.getLast? <;> rfl

theorem Ends.cons {n : Nat} {cycle : Cycle} {done : List Cycle}
    {result : Except Failure RunResult} {d : Console} (h : c.step.result = .ok cycle)
    (himp : cycle.isImplemented = true) (hends : Ends strict n c.step.console done result d) :
    Ends strict (n + 1) c (cycle :: done)
      (result.map (RunResult.followedBy ⟨1, none, some cycle⟩)) d := by
  cases hends with
  | spent hdone hn =>
      rw [Except.map, followedBy_cons]
      exact .spent (hdone.cons h himp) (congrArg (· + 1) hn)
  | endMarker hdone hn hstop =>
      rw [Except.map, followedBy_cons]
      exact .endMarker (hdone.cons h himp) (Nat.succ_lt_succ hn) hstop
  | @unknownWord done d hdone hn hstop hs =>
      have hreport : RunResult.followedBy ⟨1, none, some cycle⟩
          ⟨done.length + 1, some .unknownWord, some d.unknownCycle⟩ =
            ⟨(cycle :: done).length + 1, some .unknownWord, some d.unknownCycle⟩ := by
        rw [RunResult.followedBy, Option.some_or, List.length_cons, Nat.add_comm]
      rw [Except.map, hreport]
      exact .unknownWord (hdone.cons h himp) (Nat.succ_lt_succ hn) hstop hs
  | strictWord hdone hn hstop hs =>
      exact .strictWord (hdone.cons h himp) (Nat.succ_lt_succ hn) hstop hs
  | fault hdone hn hfault => exact .fault (hdone.cons h himp) (Nat.succ_lt_succ hn) hfault

/-- **Every run ends in one of these ways.** -/
theorem runCycles_ends (strict : Bool) (n : Nat) :
    ∀ c : Console, ∃ done, Ends strict n c done (runCycles strict n (.fresh c)).result
      (runCycles strict n (.fresh c)).console := by
  induction n with
  | zero => intro c; exact ⟨[], .spent (.nil c) rfl⟩
  | succ n ih =>
      intro c
      rcases round_cases c with ⟨fault, hfault⟩ | ⟨reason, hstop⟩ | ⟨cycle, hok, himp⟩
      · rw [runCycles_of_fault (s := .fresh c) strict n hfault]
        exact ⟨[], .fault (.nil c) (Nat.succ_pos n) hfault⟩
      · cases reason with
        | endMarker =>
            rw [runCycles_of_endMarker (s := .fresh c) strict n hstop]
            exact ⟨[], .endMarker (.nil c) (Nat.succ_pos n) hstop⟩
        | unknownWord =>
            rw [runCycles_of_unknownWord (s := .fresh c) strict n hstop]
            cases strict with
            | true => exact ⟨_, .strictWord (.nil c) (Nat.succ_pos n) hstop rfl⟩
            | false => exact ⟨_, .unknownWord (.nil c) (Nat.succ_pos n) hstop rfl⟩
      · obtain ⟨done, hends⟩ := ih c.step.console
        rw [runCycles_of_implemented (s := .fresh c) strict n hok himp, runCycles_eq_resume]
        exact ⟨cycle :: done, hends.cons hok himp⟩

/-! ### What the report says -/

namespace Ends

variable {n : Nat} {done : List Cycle} {result : Except Failure RunResult} {d : Console}
  {report : RunResult}

theorem length_le (h : Ends strict n c done result d) : done.length ≤ n := by
  cases h with
  | spent hdone hn => exact Nat.le_of_eq hn
  | endMarker hdone hn hstop => exact Nat.le_of_lt hn
  | unknownWord hdone hn hstop hs => rw [List.length_append]; exact hn
  | strictWord hdone hn hstop hs => rw [List.length_append]; exact hn
  | fault hdone hn hfault => exact Nat.le_of_lt hn

/-- The cycle at a word without an instruction is counted. -/
theorem cycles_unknownCycle {reason : Halt} (hdone : Executes c done d)
    (hstop : d.machine.StopsFor reason) :
    d.step.console.cycles = c.cycles + (done ++ [d.unknownCycle]).length := by
  have hok : d.step.result = .ok d.unknownCycle := by
    rw [step_of_stop hstop]
    rfl
  rw [cycles_step_of_ok hok, hdone.cycles_eq, List.length_append]
  rfl

/-- The count of cycles grows by the cycles that were completed. -/
theorem cycles_eq (h : Ends strict n c done result d) : d.cycles = c.cycles + done.length := by
  cases h with
  | spent hdone hn => exact hdone.cycles_eq
  | endMarker hdone hn hstop => exact hdone.cycles_eq
  | unknownWord hdone hn hstop hs => exact cycles_unknownCycle hdone hstop
  | strictWord hdone hn hstop hs => exact cycles_unknownCycle hdone hstop
  | fault hdone hn hfault => rw [cycles_step_of_error hfault]; exact hdone.cycles_eq

theorem report_eq (h : Ends strict n c done (.ok report) d) :
    report.cycles = done.length ∧ report.last = done.getLast? := by
  cases h with
  | spent hdone hn => exact ⟨rfl, rfl⟩
  | endMarker hdone hn hstop => exact ⟨rfl, rfl⟩
  | unknownWord hdone hn hstop hs => simp

theorem last_of_unknownWord (h : Ends strict n c done (.ok report) d)
    (hreason : report.halt = some .unknownWord) :
    ∃ last, report.last = some last ∧ last.word ≠ 0 ∧ last.isImplemented = false := by
  cases h with
  | spent hdone hn => cases hreason
  | endMarker hdone hn hstop => cases hreason
  | unknownWord hdone hn hstop hs =>
      exact ⟨_, rfl, hstop.2.1, rfl⟩

theorem spent_iff (h : Ends strict n c done (.ok report) d) :
    report.halt = none ↔
      report.cycles = n ∧ ∀ last, report.last = some last → last.isImplemented = true := by
  cases h with
  | spent hdone hn =>
      refine ⟨fun _ => ⟨hn, fun last hlast => ?_⟩, fun _ => rfl⟩
      exact hdone.implemented last (List.mem_of_getLast? hlast)
  | endMarker hdone hn hstop =>
      exact ⟨(fun h => nomatch h), fun h => absurd h.1 (Nat.ne_of_lt hn)⟩
  | unknownWord hdone hn hstop hs =>
      refine ⟨(fun h => nomatch h), fun h => ?_⟩
      exact absurd (h.2 _ rfl) Bool.false_ne_true

end Ends

/-- A run has completed these cycles and no others, and its report and the count of cycles say
so. -/
structure Accounted (c : Console) (maxCycles : Int) (strict : Bool) (done : List Cycle)
    (r : Reply Failure RunResult) : Prop where
  ends : Ends strict maxCycles.toNat c done r.result r.console
  /-- Each cycle that was completed is counted, also if the run fails in the end. -/
  total : r.console.cycles = c.cycles + done.length
  within : (done.length : Int) ≤ max maxCycles 0
  cycles : ∀ report, r.result = .ok report → report.cycles = done.length
  last_eq_none_iff : ∀ report, r.result = .ok report → (report.last = none ↔ report.cycles = 0)
  /-- A run that halts at a word without an instruction reports that word last. -/
  unknownWord : ∀ report, r.result = .ok report → report.halt = some .unknownWord →
    ∃ last, report.last = some last ∧ last.word ≠ 0 ∧ last.isImplemented = false
  /-- The cycles are spent exactly if there are as many as allowed and the last was executed. -/
  spent_iff : ∀ report, r.result = .ok report →
    (report.halt = none ↔ (report.cycles : Int) = max maxCycles 0 ∧
      ∀ last, report.last = some last → last.isImplemented = true)

theorem Ends.accounted {maxCycles : Int} {done : List Cycle} {r : Reply Failure RunResult}
    (h : Ends strict maxCycles.toNat c done r.result r.console) :
    Accounted c maxCycles strict done r where
  ends := h
  total := h.cycles_eq
  within := by
    have := h.length_le
    omega
  cycles report hr := (report_eq (hr ▸ h)).1
  last_eq_none_iff report hr := by
    obtain ⟨hcycles, hlast⟩ := report_eq (hr ▸ h)
    rw [hcycles, hlast, List.getLast?_eq_none_iff, List.length_eq_zero_iff]
  unknownWord report hr hreason := last_of_unknownWord (hr ▸ h) hreason
  spent_iff report hr := by
    have hmax : report.cycles = maxCycles.toNat ↔ (report.cycles : Int) = max maxCycles 0 := by
      omega
    rw [spent_iff (hr ▸ h), hmax]

/-- **A run can be cut anywhere, and its cycles are accounted for.**  A run of `a + b` cycles is
a run of `a` cycles and, if those are spent, one of `b` cycles.  And every run has completed
certain cycles, which its report and the count of cycles agree on. -/
theorem run_accounted (c : Console) (strict : Bool) :
    (∀ a b : Nat, c.run (a + b : Nat) strict = (c.run a strict).thenRun b strict) ∧
      ∀ maxCycles : Int, ∃ done, Accounted c maxCycles strict done (c.run maxCycles strict) := by
  refine ⟨fun a b => runCycles_add strict b a (.fresh c), fun maxCycles => ?_⟩
  obtain ⟨done, hends⟩ := runCycles_ends strict maxCycles.toNat c
  exact ⟨done, hends.accounted⟩

end Console
end ChipEight
