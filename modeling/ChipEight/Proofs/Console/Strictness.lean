/-
A strict run beside a lenient one.

Strictness is looked at in one place only, after a cycle at a word without an instruction: a
lenient run notes that the program has halted there, and a strict one fails with that word.
Up to there the two take the same cycles, so the reply of a strict run can be told from that of a
lenient run (`run_strict`), and what they have in common is read off it.
-/
import ChipEight.Proofs.Console.Budget

namespace ChipEight

/-- The reply of a strict run, given that of a lenient run: a halt at a word without an
instruction becomes a failure, and the note of it is taken back. -/
def Reply.strictly (lenient : Reply Failure RunResult) (halted : Option Halt) :
    Reply Failure RunResult :=
  match lenient.result with
  | .ok ⟨_, some .unknownWord, some last⟩ =>
    ⟨.error (.unknownWord last.word.toNat last.address.toNat),
      { lenient.console with halted := halted }, lenient.log.dropLast⟩
  | _ => lenient

namespace Console

variable {s : RunState} {c : Console} {report : RunResult}

/-! ### One reply from the other -/

theorem strictly_finish {last : Cycle} (hlast : s.last = some last) :
    (s.finish .unknownWord).strictly s.console.halted =
      s.fail (.unknownWord last.word.toNat last.address.toNat) := by
  obtain ⟨d, cycles, _, log⟩ := s
  obtain rfl := hlast
  simp only [Reply.strictly, RunState.finish, RunState.fail, halt, List.reverse_cons,
    List.dropLast_concat]

/-- **A strict run goes as the lenient run does.** -/
theorem runCycles_strict (n : Nat) :
    ∀ s : RunState,
      runCycles true n s = (runCycles false n s).strictly s.console.halted := by
  induction n with
  | zero => intro s; rfl
  | succ n ih =>
      intro s
      rcases round_cases s.console with ⟨fault, hfault⟩ | ⟨reason, hstop⟩ | ⟨cycle, hok, himp⟩
      · rw [runCycles_of_fault true n hfault, runCycles_of_fault false n hfault]
        rfl
      · cases reason with
        | endMarker =>
            rw [runCycles_of_endMarker true n hstop, runCycles_of_endMarker false n hstop]
            rfl
        | unknownWord =>
            rw [runCycles_of_unknownWord true n hstop, runCycles_of_unknownWord false n hstop,
              ← halted_step s.console]
            exact (strictly_finish (s := s.next s.console.unknownCycle) rfl).symm
      · -- the note of a halt is the one that the run began with, as no cycle makes one
        rw [runCycles_of_implemented true n hok himp, runCycles_of_implemented false n hok himp,
          ih (s.next cycle), ← halted_step s.console]
        rfl

theorem run_strict (c : Console) (maxCycles : Int) :
    c.run maxCycles true = (c.run maxCycles false).strictly c.halted :=
  runCycles_strict maxCycles.toNat (.fresh c)

/-! ### How the lenient run ends -/

theorem run_ends (c : Console) (maxCycles : Int) (strict : Bool) :
    ∃ done, Ends strict maxCycles.toNat c done (c.run maxCycles strict).result
      (c.run maxCycles strict).console :=
  runCycles_ends strict maxCycles.toNat c

theorem Ends.halted_eq {strict : Bool} {n : Nat} {done : List Cycle} {d : Console}
    (h : Ends strict n c done (.ok report) d) (hhalt : report.halt = some .unknownWord) :
    d.halted = some .unknownWord := by
  cases h with
  | spent hdone hn => cases hhalt
  | endMarker hdone hn hstop => cases hhalt
  | unknownWord hdone hn hstop hs => rfl

theorem Ends.fault_of_lenient {n : Nat} {done : List Cycle} {d : Console} {failure : Failure}
    (h : Ends false n c done (.error failure) d) : ∃ fault, failure = .fault fault := by
  cases h with
  | strictWord hdone hn hstop hs => cases hs
  | fault hdone hn hfault => exact ⟨_, rfl⟩

/-! ### What strictness changes -/

/-- A run that halts at a word without an instruction. -/
def HaltsAt (r : Reply Failure RunResult) (last : Cycle) : Prop :=
  ∃ report, r.result = .ok report ∧ report.halt = some .unknownWord ∧ report.last = some last

/-- The replies of a lenient and of a strict run from one console differ at most in how they
report a word without an instruction. -/
structure DifferAtUnknownWord (c : Console) (lenient strict : Reply Failure RunResult) :
    Prop where
  /-- The strict run fails with the word at which the lenient run halts. -/
  fails_iff : ∀ word address, strict.result = .error (.unknownWord word address) ↔
    ∃ last, HaltsAt lenient last ∧ last.word.toNat = word ∧ last.address.toNat = address
  /-- Then only the note of the halt differs, and the strict run has left it as it was. -/
  console_eq : ∀ last, HaltsAt lenient last →
    lenient.console = { strict.console with halted := some .unknownWord } ∧
      strict.console.halted = c.halted
  /-- The lenient run reports a word whenever it halts for the lack of an instruction. -/
  reports : ∀ report, lenient.result = .ok report → report.halt = some .unknownWord →
    ∃ last, HaltsAt lenient last
  /-- In every other case the two replies are the same. -/
  eq_of_not : (¬∃ last, HaltsAt lenient last) → strict = lenient
  /-- A run that fails otherwise fails with a fault of the machine. -/
  fault : ∀ failure, lenient.result = .error failure → ∃ fault, failure = .fault fault

theorem strictly_of_haltsAt {r : Reply Failure RunResult} {last : Cycle} (h : HaltsAt r last)
    (halted : Option Halt) :
    r.strictly halted = ⟨.error (.unknownWord last.word.toNat last.address.toNat),
      { r.console with halted := halted }, r.log.dropLast⟩ := by
  obtain ⟨⟨cycles, halt, last'⟩, hresult, hhalt, hlast⟩ := h
  obtain rfl : halt = some .unknownWord := hhalt
  obtain rfl : last' = some last := hlast
  simp only [Reply.strictly, hresult]

theorem strictly_of_not {r : Reply Failure RunResult} (h : ¬∃ last, HaltsAt r last)
    (halted : Option Halt) : r.strictly halted = r := by
  unfold Reply.strictly
  split
  next cycles last hresult => exact absurd ⟨last, _, hresult, rfl, rfl⟩ h
  next => rfl

/-- **Strictness changes only how a word without an instruction is reported.** -/
theorem strict_reports (c : Console) (maxCycles : Int) :
    DifferAtUnknownWord c (c.run maxCycles false) (c.run maxCycles true) := by
  obtain ⟨done, hends⟩ := run_ends c maxCycles false
  rw [run_strict]
  generalize c.run maxCycles false = lenient at hends
  constructor
  case fails_iff =>
    intro word address
    constructor
    case mp =>
      intro hstrict
      by_cases h : ∃ last, HaltsAt lenient last
      · obtain ⟨last, hlast⟩ := h
        rw [strictly_of_haltsAt hlast] at hstrict
        simp only [Except.error.injEq, Failure.unknownWord.injEq] at hstrict
        exact ⟨last, hlast, hstrict⟩
      · rw [strictly_of_not h] at hstrict
        obtain ⟨fault, hfault⟩ := Ends.fault_of_lenient (hstrict ▸ hends)
        cases hfault
    case mpr =>
      rintro ⟨last, hlast, rfl, rfl⟩
      rw [strictly_of_haltsAt hlast]
  case console_eq =>
    intro last h
    rw [strictly_of_haltsAt h]
    obtain ⟨report, hresult, hhalt, -⟩ := h
    rw [hresult] at hends
    refine ⟨?_, rfl⟩
    show lenient.console = { lenient.console with halted := some .unknownWord }
    rw [← hends.halted_eq hhalt]
  case reports =>
    intro report hresult hhalt
    rw [hresult] at hends
    obtain ⟨last, hlast, -⟩ := hends.last_of_unknownWord hhalt
    exact ⟨last, report, hresult, hhalt, hlast⟩
  case eq_of_not =>
    intro h
    rw [strictly_of_not h]
  case fault =>
    intro failure hresult
    rw [hresult] at hends
    exact hends.fault_of_lenient

end Console
end ChipEight
