/-
The debugger goes through the same cycles as a run.

The debugger has a loop of its own, which differs from a run in what it keeps: it numbers
the cycles instead of counting them, it prints instead of reporting, and it does not note that the
program has halted.  Its rounds come out as those of a run do, so there is one equation for each
way a round can end, and with these the debugger is followed along `Ends`: first through the
cycles that were executed (`cycles_of_executes`), then through whatever ended them.

What is printed is told apart from what is only noted in the log (`Piece.isPrinted`).  Every cycle
leaves a note, also one that fails, but only a cycle that was executed has its block.  The lines
that are printed are written out here (`openingLines`, `cycleLines`, `stopLines`), with the numbers
that a reader finds in them.
-/
import ChipEight.CommandLine.Program
import ChipEight.Proofs.Console.Budget
import ChipEight.Proofs.Console.Faults
import ChipEight.Proofs.Console.Requests
import ChipEight.Proofs.Text.Spelling

namespace ChipEight

namespace Console

/-! ### The registers can always be shown -/

theorem mapM_eq_ok {α β ε : Type} {f : α → Except ε β} {g : α → β} :
    ∀ l : List α, (∀ a ∈ l, f a = .ok (g a)) → l.mapM f = .ok (l.map g) := by
  intro l
  induction l with
  | nil => intro _; rfl
  | cons a l ih =>
      intro h
      rw [List.mapM_cons, h a (by simp), ih fun b hb => h b (by simp [hb])]
      rfl

/-- The registers of a console in one line, and the program counter and the index register in
another. -/
def registerLines (c : Console) : String :=
  " ".intercalate ((List.range 16).map fun k : Nat =>
      s!"V{Hex.field 1 k}:{Hex.field 2 (c.machine.v.read (BitVec.ofNat 4 k)).toNat}") ++
    s!"\nPC:{Hex.marked 4 c.machine.pc.toNat} I:{Hex.marked 4 c.machine.i.toNat}"

theorem readRegister_eq_ok (m : Machine) {k : Nat} (hk : k < 16) :
    m.readRegister k = .ok (m.v.read (BitVec.ofNat 4 k)) := by
  have hposition : position? 16 k = some ⟨k, hk⟩ := dif_pos (by omega)
  have hname : BitVec.ofFin ⟨k, hk⟩ = BitVec.ofNat 4 k :=
    BitVec.eq_of_toNat_eq (by simp [Nat.mod_eq_of_lt hk])
  rw [Machine.readRegister, hposition, ← hname]

theorem formatRegisters_all (c : Console) : c.formatRegisters 0 15 = .ok c.registerLines := by
  have hshown : (List.range 16).mapM (fun k : Nat => do
      let index : Int := 0 + k
      let b ← c.machine.readRegister index
      return s!"V{Hex.field 1 index}:{Hex.field 2 b.toNat}") =
        .ok ((List.range 16).map fun k : Nat =>
          s!"V{Hex.field 1 k}:{Hex.field 2 (c.machine.v.read (BitVec.ofNat 4 k)).toNat}") := by
    refine mapM_eq_ok _ fun k hk => ?_
    simp only [Int.zero_add, readRegister_eq_ok c.machine (List.mem_range.mp hk)]
    rfl
  show (do
    let shown ← (List.range 16).mapM _
    return " ".intercalate shown ++
      s!"\nPC:{Hex.marked 4 c.machine.pc.toNat} I:{Hex.marked 4 c.machine.i.toNat}") = _
  rw [hshown]
  rfl

/-- The first ten bytes of the program in one line. -/
def sampleLine (c : Console) : String :=
  " ".intercalate ((List.range 10).map fun k : Nat =>
    Hex.lowerByte (c.machine.memory.byteAt (0x200 + k)))

theorem formatMemory_sample (c : Console) : c.formatMemory 10 0x200 = .ok c.sampleLine := by
  have hread : c.machine.memory.readBlock 0x200 10 = .ok (c.machine.memory.slice 0x200 10) :=
    c.machine.memory.readBlock_address 0x200 10
  rw [formatMemory, Memory.dump, hread, Except.map, Memory.slice, List.map_map]
  rfl

end Console

namespace CommandLine

/-- Whether a piece is printed, and not only noted in the log. -/
def Piece.isPrinted : Piece → Bool
  | .out _ => true
  | .err _ => true
  | .log _ => false

/-- What is printed of some pieces. -/
def printed (pieces : List Piece) : List Piece := pieces.filter Piece.isPrinted

@[simp] theorem printed_append (l₁ l₂ : List Piece) :
    printed (l₁ ++ l₂) = printed l₁ ++ printed l₂ := List.filter_append ..

@[simp] theorem printed_log (log : List LogRecord) : printed (log.map Piece.log) = [] := by
  simp [printed, Piece.isPrinted]

namespace Debugger

open Console

variable {strict : Bool} {n number : Nat} {c d : Console} {pieces : List Piece}
  {done : List Cycle}

/-! ### The lines that are printed -/

/-- Lines on the standard output. -/
def shown (lines : List String) : List Piece := lines.map fun line => .out (line ++ "\n")

@[simp] theorem shown_append (l₁ l₂ : List String) : shown (l₁ ++ l₂) = shown l₁ ++ shown l₂ :=
  List.map_append

/-- The lines before the first cycle. -/
def openingLines (c : Console) : List String :=
  ["Init state", "Ram @ 0x200 : ", c.sampleLine, c.registerLines]

/-- The lines for a cycle: its number, the registers after it, and its word. -/
def cycleLines (number : Nat) (word : Word) (after : Console) : List String :=
  ["\nResult for cycle " ++ toString number, after.registerLines,
    "Executed 0x" ++ Hex.field 4 word.toNat]

/-- The line for a word without an instruction, with its address. -/
def stopText (word : Word) (address : Address) : String :=
  "\nStopped at unknown opcode 0x" ++ Hex.field 4 word.toNat ++
    " (0x" ++ Hex.field 3 address.toNat ++ ")"

/-- What a block shows are the registers; they can always be read. -/
theorem registers_eq (c : Console) : registers c = c.registerLines := by
  rw [registers, formatRegisters_all]
  rfl

theorem sample_eq (c : Console) : sample c = c.sampleLine := by
  have hsample : c.formatMemory sampleSize Memory.programStart = .ok c.sampleLine :=
    formatMemory_sample c
  rw [sample, hsample]
  rfl

@[simp] theorem printed_shown (lines : List String) : printed (shown lines) = shown lines := by
  refine List.filter_eq_self.mpr fun piece hpiece => ?_
  obtain ⟨line, -, rfl⟩ := List.mem_map.mp hpiece
  rfl

theorem preamble_eq (c : Console) : preamble c = shown (openingLines c) := by
  rw [preamble, sample_eq, registers_eq]
  rfl

/-- A marked number after a text that leads up to the marker. -/
theorem marked_after {a b : String} (h : a ++ "0x" = b) (width : Nat) (n : Int) :
    a ++ Hex.marked width n = b ++ Hex.field width n := by
  rw [Hex.marked, ← String.append_assoc, h]

theorem block_eq (number : Nat) (cycle : Cycle) (c : Console) :
    block number cycle c = shown (cycleLines number cycle.word c) := by
  have hword : "Executed " ++ Hex.marked 4 cycle.word.toNat =
      "Executed 0x" ++ Hex.field 4 cycle.word.toNat :=
    marked_after (by simp only [String.reduceAppend]) 4 _
  rw [block, registers_eq, cycleLines, ← hword]
  rfl

theorem stopLine_eq (cycle : Cycle) :
    stopLine cycle = .outLine (stopText cycle.word cycle.address) := by
  have hword : "\nStopped at unknown opcode " ++ Hex.marked 4 cycle.word.toNat =
      "\nStopped at unknown opcode 0x" ++ Hex.field 4 cycle.word.toNat :=
    marked_after (by simp only [String.reduceAppend]) 4 _
  have haddress (text : String) : text ++ " (" ++ Hex.marked 3 cycle.address.toNat =
      text ++ " (0x" ++ Hex.field 3 cycle.address.toNat :=
    marked_after (by simp only [String.append_assoc, String.reduceAppend]) 3 _
  have hline := (congrArg (· ++ " (" ++ Hex.marked 3 cycle.address.toNat) hword).trans (haddress _)
  exact congrArg Piece.outLine (congrArg (· ++ ")") hline)

theorem printed_stopLine (cycle : Cycle) :
    printed [stopLine cycle] = shown [stopText cycle.word cycle.address] := by
  rw [stopLine_eq]
  rfl

/-! ### One round -/

/-- What a cycle leaves in the log. -/
def noted (c : Console) : List Piece := c.step.log.map .log

@[simp] theorem printed_noted (c : Console) : printed (noted c) = [] := printed_log _

theorem cycles_of_fault {fault : Fault} (h : c.step.result = .error fault) :
    cycles strict (n + 1) number c pieces =
      ⟨some (.fault fault), c.step.console, ((noted c).reverse ++ pieces).reverse⟩ := by
  cases hpeek : c.peek with
  | error fault' =>
      have hs := step_of_peek_error hpeek
      rw [hs] at h
      obtain rfl := Except.error.inj h
      simp only [cycles, noted, hpeek, hs]
      rfl
  | ok word =>
      obtain ⟨hpc, hword⟩ := peek_eq_ok_iff.mp hpeek
      have hne : ¬word = 0 := by
        rw [hword]
        exact nextWord_ne_zero_of_fault h hpc
      rcases hs : c.step with ⟨result, d, log⟩
      rw [hs] at h
      obtain rfl : result = .error fault := h
      simp only [cycles, noted, hpeek, if_neg hne, hs]

theorem cycles_of_endMarker (h : c.machine.StopsFor .endMarker) :
    cycles strict (n + 1) number c pieces = ⟨none, c, pieces.reverse⟩ := by
  have hpeek : c.peek = .ok 0 := peek_eq_ok_iff.mpr ⟨h.pc_ne, h.2.symm⟩
  simp only [cycles, hpeek, if_true]

theorem cycles_of_ok {cycle : Cycle} (h : c.step.result = .ok cycle)
    (hne : c.machine.nextWord ≠ 0) :
    cycles strict (n + 1) number c pieces =
      if cycle.isImplemented then
        cycles strict n (number + 1) c.step.console
          ((block number cycle c.step.console).reverse ++ ((noted c).reverse ++ pieces))
      else if strict then
        ⟨some (.unknownWord cycle.word.toNat cycle.address.toNat), c.step.console,
          ((noted c).reverse ++ pieces).reverse⟩
      else ⟨none, c.step.console, (stopLine cycle :: ((noted c).reverse ++ pieces)).reverse⟩ := by
  have hpeek : c.peek = .ok c.machine.nextWord := peek_eq_ok_iff.mpr ⟨(cycle_of_step h).1, rfl⟩
  rcases hs : c.step with ⟨result, d, log⟩
  rw [hs] at h
  obtain rfl : result = .ok cycle := h
  simp only [cycles, noted, hpeek, if_neg hne, hs]

theorem cycles_of_unknownWord (h : c.machine.StopsFor .unknownWord) :
    cycles strict (n + 1) number c pieces =
      if strict then
        ⟨some (.unknownWord c.machine.nextWord.toNat c.machine.pc.toNat), c.step.console,
          ((noted c).reverse ++ pieces).reverse⟩
      else
        ⟨none, c.step.console,
          (stopLine c.unknownCycle :: ((noted c).reverse ++ pieces)).reverse⟩ := by
  have hok : c.step.result = .ok c.unknownCycle := by rw [step_of_stop h, unknownCycle]
  have himp : ¬c.unknownCycle.isImplemented = true := Bool.false_ne_true
  rw [cycles_of_ok hok h.2.1, if_neg himp, unknownCycle]

theorem cycles_of_implemented {cycle : Cycle} (h : c.step.result = .ok cycle)
    (himp : cycle.isImplemented = true) :
    cycles strict (n + 1) number c pieces =
      cycles strict n (number + 1) c.step.console
        ((block number cycle c.step.console).reverse ++ ((noted c).reverse ++ pieces)) := by
  rw [cycles_of_ok h (nextWord_ne_zero_of_implemented h himp), if_pos himp]

/-! ### The cycles that were executed -/

/-- What stands in the transcript for cycles that were executed. -/
def narrated : Nat → Console → List Cycle → List Piece
  | _, _, [] => []
  | number, c, cycle :: rest =>
    noted c ++ block number cycle c.step.console ++ narrated (number + 1) c.step.console rest

/-- **The debugger follows the cycles that are executed**, and what it has printed is with the
pieces so far. -/
theorem cycles_of_executes (strict : Bool) (n : Nat) (hdone : Executes c done d) :
    ∀ (number : Nat) (pieces : List Piece),
      cycles strict (done.length + n) number c pieces =
        cycles strict n (number + done.length) d ((narrated number c done).reverse ++ pieces) := by
  induction hdone with
  | nil c => intro number pieces; simp [narrated]
  | @cons c d cycle rest h himp hrest ih =>
      intro number pieces
      rw [List.length_cons, Nat.add_right_comm, cycles_of_implemented h himp, ih, narrated,
        Nat.add_right_comm number, Nat.add_assoc number]
      simp only [List.reverse_append, List.append_assoc]

/-- The lines of some cycles that a console executes: for each its number, from zero on, the
registers after it, and its word. -/
def executedLines (c : Console) (executed : List Cycle) : List String :=
  (executed.mapIdx fun k cycle => cycleLines k cycle.word (c.afterCycles (k + 1))).flatten

/-- Of what stands in the transcript for cycles that were executed, the blocks are printed. -/
theorem printed_narrated :
    ∀ (executed : List Cycle) (number : Nat) (c : Console),
      printed (narrated number c executed) =
        shown (executed.mapIdx fun k cycle =>
          cycleLines (number + k) cycle.word (c.afterCycles (k + 1))).flatten := by
  intro executed
  induction executed with
  | nil => intro number c; rfl
  | cons cycle rest ih =>
      intro number c
      have hnumber : ∀ k, number + 1 + k = number + (k + 1) := fun k => by omega
      rw [narrated, List.mapIdx_cons, List.flatten_cons, printed_append, printed_append,
        printed_noted, block_eq, printed_shown, ih, shown_append]
      simp only [hnumber, List.nil_append, afterCycles, Nat.add_zero]

theorem printed_narrated_zero (c : Console) (executed : List Cycle) :
    printed (narrated 0 c executed) = shown (executedLines c executed) := by
  simp only [printed_narrated, Nat.zero_add, executedLines]

/-! ### The transcript of a run -/

/-- The failure in a result, if there is one. -/
def failureOf : Except Failure RunResult → Option Failure
  | .ok _ => none
  | .error f => some f

/-- What is printed last: a line for a word without an instruction, if the run halted at one. -/
def stopLines : Except Failure RunResult → List String
  | .ok ⟨_, some .unknownWord, some last⟩ => [stopText last.word last.address]
  | _ => []

/-- The transcript tells of a run: of its result, of the console it leaves behind, and of the
cycles in which it executed an instruction. -/
structure Narrates (c : Console) (result : Except Failure RunResult) (d : Console)
    (executed : List Cycle) (t : Transcript) : Prop where
  /-- Only the note of a halt is missing. -/
  console : t.console = { d with halted := c.halted }
  failure : t.failure = failureOf result
  /-- The lines of each cycle are printed, in order, and the stop line at the end. -/
  printed : printed t.pieces =
    shown (openingLines c ++ executedLines c executed ++ stopLines result)
  /-- The blocks are as many as the cycles of the run, less one for a word without an
  instruction. -/
  length : ∀ report, result = .ok report →
    report.cycles = executed.length + if report.halt = some .unknownWord then 1 else 0
  /-- The stop line is there exactly if the run halted at a word without an instruction. -/
  stopLine : ∀ report, result = .ok report → report.halt = some .unknownWord →
    ∃ last, report.last = some last ∧ stopLines result = [stopText last.word last.address]

/-- The transcript up to where a run has got. -/
theorem transcript_of_executes {maxCycles : Int} (hdone : Executes c done d)
    (hn : maxCycles.toNat = done.length + n) :
    transcript c maxCycles strict =
      cycles strict n done.length d ((narrated 0 c done).reverse ++ (preamble c).reverse) := by
  rw [transcript, hn, cycles_of_executes strict n hdone, Nat.zero_add]

theorem filter_executed (hdone : Executes c done d) : done.filter (·.isImplemented) = done :=
  List.filter_eq_self.mpr hdone.implemented

theorem filter_stopped (hdone : Executes c done d) :
    (done ++ [d.unknownCycle]).filter (·.isImplemented) = done := by
  have himp : ¬d.unknownCycle.isImplemented = true := Bool.false_ne_true
  rw [List.filter_append, filter_executed hdone, List.filter_cons_of_neg himp, List.filter_nil,
    List.append_nil]

/-- What is printed by a debugger that has followed some cycles and then ends; the pieces after
those of the cycles are given with the latest first. -/
theorem printed_end (c : Console) (done : List Cycle) (latest : List Piece) :
    CommandLine.printed
        (latest ++ ((narrated 0 c done).reverse ++ (preamble c).reverse)).reverse =
      shown (openingLines c ++ executedLines c done) ++ CommandLine.printed latest.reverse := by
  simp [printed_narrated_zero, preamble_eq]

/-- **The transcript tells of the run**, whichever way that ends. -/
theorem narrates_transcript {maxCycles : Int} {result : Except Failure RunResult}
    (h : Ends strict maxCycles.toNat c done result d) :
    Narrates c result d (done.filter (·.isImplemented)) (transcript c maxCycles strict) := by
  -- each end of a run is an end of the loop of the debugger, after the same cycles
  cases h with
  | @spent done d hdone hn =>
      rw [filter_executed hdone, transcript_of_executes (n := 0) hdone hn.symm, cycles]
      exact {
        console := by rw [← hdone.halted_eq]
        failure := rfl
        printed := by simpa [stopLines, CommandLine.printed] using printed_end c done []
        length := by rintro _ ⟨⟩; rfl
        stopLine := by rintro _ ⟨⟩ ⟨⟩ }
  | @endMarker done d hdone hn hstop =>
      obtain ⟨n, hn⟩ := Nat.exists_eq_add_of_lt hn
      rw [filter_executed hdone, transcript_of_executes (n := n + 1) hdone hn,
        cycles_of_endMarker hstop]
      exact {
        console := by rw [halt, ← hdone.halted_eq]
        failure := rfl
        printed := by simpa [stopLines, CommandLine.printed] using printed_end c done []
        length := by rintro _ ⟨⟩; rfl
        stopLine := by rintro _ ⟨⟩ ⟨⟩ }
  | @unknownWord done d hdone hn hstop hs =>
      obtain ⟨n, hn⟩ := Nat.exists_eq_add_of_lt hn
      rw [filter_stopped hdone, transcript_of_executes (n := n + 1) hdone hn,
        cycles_of_unknownWord hstop, if_neg (by simp [hs])]
      exact {
        console := by rw [halt, ← hdone.halted_eq, ← halted_step d]
        failure := rfl
        printed := by
          -- the stop line comes after the note of the cycle that is at the word
          refine (printed_end c done (stopLine d.unknownCycle :: (noted d).reverse)).trans ?_
          simp [stopLines, printed_stopLine]
        length := by rintro _ ⟨⟩; rfl
        stopLine := by rintro _ ⟨⟩ -; exact ⟨_, rfl, rfl⟩ }
  | @strictWord done d hdone hn hstop hs =>
      obtain ⟨n, hn⟩ := Nat.exists_eq_add_of_lt hn
      rw [filter_stopped hdone, transcript_of_executes (n := n + 1) hdone hn,
        cycles_of_unknownWord hstop, if_pos hs]
      exact {
        console := by rw [← hdone.halted_eq, ← halted_step d]
        failure := rfl
        printed := by
          rw [printed_end, List.reverse_reverse, printed_noted]
          simp [stopLines]
        length := by rintro _ ⟨⟩
        stopLine := by rintro _ ⟨⟩ }
  | @fault done d fault hdone hn hfault =>
      obtain ⟨n, hn⟩ := Nat.exists_eq_add_of_lt hn
      rw [filter_executed hdone, transcript_of_executes (n := n + 1) hdone hn,
        cycles_of_fault hfault]
      exact {
        console := by rw [← hdone.halted_eq, ← halted_step d]
        failure := rfl
        printed := by
          rw [printed_end, List.reverse_reverse, printed_noted]
          simp [stopLines]
        length := by rintro _ ⟨⟩
        stopLine := by rintro _ ⟨⟩ }

end Debugger

/-! ### The command -/

section Command

open Console Debugger

variable {world : World} {common : Common} {rom : String} {c d : Console} {strict : Bool}
  {maxCycles : Int} {done : List Cycle}

/-- What is printed on the standard error stream about a failure. -/
def complaints : Except Failure RunResult → List Piece
  | .ok _ => []
  | .error f => [.err ("Emulation error: " ++ f.message ++ "\n")]

/-- The report of the command tells of a run: of its result, and of the cycles in which it
executed an instruction. -/
structure Tells (c : Console) (result : Except Failure RunResult) (executed : List Cycle)
    (report : Report) : Prop where
  /-- The same lines are printed as in the transcript, and a failure after everything else. -/
  printed : printed report.pieces =
    shown (openingLines c ++ executedLines c executed ++ stopLines result) ++ complaints result
  exit_of_ok : ∀ r, result = .ok r → report.exit = 0
  exit_of_error : ∀ f, result = .error f → report.exit = 1

/-- A console with a program that is not too large can be had, if the settings are accepted and
the program can be read. -/
theorem loadConsole_eq_ok {settings : Settings} {data : List Byte}
    (hsettings : makeSettings world.env common.shiftsBoth none = .ok settings)
    (hdata : (world.probe (Files.normalize rom)).contents = .ok data)
    (hsize : data.length ≤ Memory.programLimit) :
    ∃ log : List LogRecord, loadConsole world common rom none =
      .ok (((Console.new settings (.ofSeed? settings.seed world.unseeded)).load data).console,
        log.map .log) := by
  simp only [loadConsole, hsettings, Console.loadFile, hdata, load_of_le hsize]
  exact ⟨_, rfl⟩

/-- **What ends a run is a failure of the program**, never a mistake of the machine itself. -/
theorem ofFailure_of_ends {n : Nat} {f : Failure} (h : Ends strict n c done (.error f) d) :
    Mishap.ofFailure f = .machine f := by
  cases h with
  | strictWord => rfl
  | fault _ _ hfault => exact if_pos (isOfProgram_of_step hfault)

theorem tells_debug {log : List LogRecord} {result : Except Failure RunResult}
    (hload : loadConsole world common rom none = .ok (c, log.map .log))
    (hends : Ends strict maxCycles.toNat c done result d) :
    Tells c result (done.filter (·.isImplemented))
      (debug world common rom maxCycles strict) := by
  have ht := narrates_transcript hends
  simp only [debug, hload]
  generalize transcript c maxCycles strict = t at ht ⊢
  cases result with
  | ok r =>
      simp only [ht.failure, failureOf]
      exact {
        printed := by
          show CommandLine.printed (log.map .log ++ t.pieces) = _
          rw [printed_append, printed_log, ht.printed, complaints, List.nil_append,
            List.append_nil]
        exit_of_ok := fun _ _ => rfl
        exit_of_error := by rintro _ ⟨⟩ }
  | error f =>
      simp only [ht.failure, failureOf, ofFailure_of_ends hends]
      exact {
        printed := by
          show CommandLine.printed (log.map .log ++ t.pieces ++ complaints (.error f)) = _
          rw [printed_append, printed_append, printed_log, ht.printed]
          rfl
        exit_of_ok := by rintro _ ⟨⟩
        exit_of_error := fun _ _ => rfl }

/-- **The debugger runs the same program.**  A program that is not too large is loaded.  Then a
run and the debugger complete the same cycles and leave the same machine behind.  The debugger
prints a block for each cycle in which an instruction was executed, with the number of the cycle,
the registers after it and its word, and a line for the word without an instruction at which the
run halts, with the address; and it fails exactly if the run does.  The registers and the first
bytes of the program can always be shown, and the words and addresses can be read back. -/
theorem debug_tells_run (settings : Settings) (source : ByteSource) (data : List Byte)
    (maxCycles : Int) (strict : Bool) (hsize : data.length ≤ Memory.programLimit) :
    let loading := (Console.new settings source).load data
    let c := loading.console
    let run := c.run maxCycles strict
    loading.result = .ok () ∧
      (∀ e : Console,
        e.formatRegisters 0 15 = .ok e.registerLines ∧
          e.formatMemory 10 0x200 = .ok e.sampleLine) ∧
      (∀ width n : Nat, Numeral.read .sixteen (Hex.field width n) = .ok n) ∧
      ∃ done, Ends strict maxCycles.toNat c done run.result run.console ∧
        Narrates c run.result run.console (done.filter (·.isImplemented))
          (transcript c maxCycles strict) ∧
        ∀ (world : World) (common : Common) (rom : String),
          makeSettings world.env common.shiftsBoth none = .ok settings →
          ByteSource.ofSeed? settings.seed world.unseeded = source →
          (world.probe (Files.normalize rom)).contents = .ok data →
          Tells c run.result (done.filter (·.isImplemented))
            (debug world common rom maxCycles strict) := by
  intro loading c run
  have hloaded : loading.result = .ok () := by
    simp only [loading, load_of_le hsize]
  obtain ⟨done, hends⟩ := runCycles_ends strict maxCycles.toNat c
  refine ⟨hloaded, fun e => ⟨e.formatRegisters_all, e.formatMemory_sample⟩,
    Numeral.read_field, done, hends, narrates_transcript hends, ?_⟩
  intro world common rom hsettings hsource hdata
  obtain ⟨log, hload⟩ := loadConsole_eq_ok hsettings hdata hsize
  rw [hsource] at hload
  exact tells_debug hload hends

/-- A program of one instruction and a word without one: the debugger executes both, prints the
first, and stops at the second. -/
theorem debug_tells_run_unknownWord :
    let data : List Byte := [0x60, 0x05, 0x51, 0x21]
    let world : World := ⟨fun _ => .file data, fun _ => none, fun _ => none, [], fun _ => none,
      .zeros⟩
    let c := ((Console.new {} .zeros).load data).console
    let run := c.run 9 false
    let report := debug world ⟨false, none⟩ "p.ch8" 9 false
    let last : Cycle := ⟨0x202, 0x5121, false, false, false⟩
    run.result = .ok ⟨2, some .unknownWord, some last⟩ ∧ report.exit = 0 ∧
      ∃ done, Ends false 9 c done run.result run.console ∧
        Tells c run.result (done.filter (·.isImplemented)) report := by
  intro data world c run report last
  have hresult : run.result = .ok ⟨2, some .unknownWord, some last⟩ := by
    have hsome : run.result.toOption = some ⟨2, some .unknownWord, some last⟩ := by
      decide +kernel
    cases hrun : run.result with
    | error f => rw [hrun] at hsome; cases hsome
    | ok r => rw [hrun] at hsome; exact congrArg Except.ok (Option.some.inj hsome)
  obtain ⟨-, -, -, done, hends, -, htells⟩ :=
    debug_tells_run {} .zeros data 9 false (by decide)
  have hreport := htells world ⟨false, none⟩ "p.ch8" rfl rfl rfl
  exact ⟨hresult, hreport.exit_of_ok _ hresult, done, hends, hreport⟩

end Command
end CommandLine
end ChipEight
