/-
Halting is final, and for a reason.

A console notes that its program has halted, and why.  The note is made in frames and in runs,
but it is read by frames only: a cycle or a run asked for afterwards goes on as if nothing had
happened.  It is still true that the program has come to its end, because of the word at the
program counter.  That word justifies the note (`Truthful`), and at such a word a cycle changes
nothing but the record of the last word.  So the word stays where it is, whatever is asked for
next, and whoever meets it again stops for the same reason.
-/
import ChipEight.Proofs.Console.Requests

namespace ChipEight.Console

variable {c d e : Console} {reason : Halt}

/-! ### The note of a halt is justified -/

/-- If the program is noted as halted, it is for the word at the program counter. -/
def Truthful (c : Console) : Prop :=
  ∀ reason, c.halted = some reason → c.machine.StopsFor reason

theorem halt_of_halted (h : c.halted = some reason) : (c.halt reason).1 = c := by
  obtain ⟨settings, machine, source, halted, cycles, romSize⟩ := c
  obtain rfl : halted = some reason := h
  rfl

/-- **Every request keeps the note of a halt justified.** -/
theorem invariant_truthful : Invariant Truthful where
  step c hc reason h := by
    rw [halted_step] at h
    exact stopsFor_step (hc reason h)
  halt c reason _ hstop reason' h := by
    obtain rfl := Option.some.inj h
    exact hstop
  tick c hc reason h := (hc reason h).congr rfl rfl
  withKeypad c keypad hc reason h := (hc reason h).congr rfl rfl
  seen c hc reason h := (hc reason h).congr rfl rfl
  loaded c data _ _ reason h := nomatch h

/-! ### What stays the same from then on -/

/-- Everything is the same that only a running program changes, and so is the note of a
halt. -/
structure Frozen (c d : Console) : Prop where
  halted : d.halted = c.halted
  v : d.machine.v = c.machine.v
  pc : d.machine.pc = c.machine.pc
  i : d.machine.i = c.machine.i
  stack : d.machine.stack = c.machine.stack
  memory : d.machine.memory = c.machine.memory
  pixels : d.machine.display.pixels = c.machine.display.pixels
  source : d.source = c.source

namespace Frozen

theorem refl (c : Console) : Frozen c c := ⟨rfl, rfl, rfl, rfl, rfl, rfl, rfl, rfl⟩

theorem agree (h : Frozen c d) (hde : d.Agree e) : Frozen c e := by
  obtain ⟨word, cycles, rfl⟩ := hde
  exact ⟨h.halted, h.v, h.pc, h.i, h.stack, h.memory, h.pixels, h.source⟩

theorem trans (h : Frozen c d) (hde : Frozen d e) : Frozen c e :=
  ⟨hde.halted.trans h.halted, hde.v.trans h.v, hde.pc.trans h.pc, hde.i.trans h.i,
    hde.stack.trans h.stack, hde.memory.trans h.memory, hde.pixels.trans h.pixels,
    hde.source.trans h.source⟩

theorem tick (c : Console) : Frozen c c.tick := ⟨rfl, rfl, rfl, rfl, rfl, rfl, rfl, rfl⟩

theorem withKeypad (c : Console) (keypad : Keypad) : Frozen c (c.withKeypad keypad) :=
  ⟨rfl, rfl, rfl, rfl, rfl, rfl, rfl, rfl⟩

theorem seen (c : Console) : Frozen c c.seen := ⟨rfl, rfl, rfl, rfl, rfl, rfl, rfl, rfl⟩

theorem stopsFor (h : Frozen c d) (hc : c.machine.StopsFor reason) :
    d.machine.StopsFor reason :=
  hc.congr h.pc h.memory

end Frozen

/-- **Once the program has halted, only a fresh start changes what it has left behind.** -/
theorem kept_frozen (hc : c.halted = some reason) (hstop : c.machine.StopsFor reason) :
    Kept (Frozen c) where
  step d h := h.agree (agree_of_stop (h.stopsFor hstop))
  halt d reason' h hstop' := by
    obtain rfl := hstop'.unique (h.stopsFor hstop)
    rw [halt_of_halted (h.halted.trans hc)]
    exact h
  tick d h := h.trans (.tick d)
  withKeypad d keypad h := h.trans (.withKeypad d keypad)
  seen d h := h.trans (.seen d)

/-! ### What a halted program does -/

/-- The program has halted, and nothing that goes on with it gets anywhere. -/
structure AtRest (reason : Halt) (d : Console) : Prop where
  halted : d.halted = some reason
  /-- It is at a word for which it stops. -/
  stopsFor : d.machine.StopsFor reason
  /-- A cycle succeeds and has no effect on the program. -/
  step : (∃ cycle, d.step.result = .ok cycle) ∧ d.Agree d.step.console
  /-- A run has no effect on the program, whether it succeeds or fails. -/
  run : ∀ maxCycles strict, d.Agree (d.run maxCycles strict).console
  /-- A frame has no effect at all, and does not even take a cycle. -/
  runFrame : d.runFrame = ⟨.ok [], d, []⟩
  /-- A run stops again for the same reason, -/
  stopsAgain : ∀ maxCycles strict, 1 ≤ maxCycles → strict = false ∨ reason = .endMarker →
    ∃ report, (d.run maxCycles strict).result = .ok report ∧ report.halt = some reason
  /-- unless it is strict and at an unknown word, for which it fails. -/
  failsAgain : ∀ maxCycles, 1 ≤ maxCycles → reason = .unknownWord →
    (d.run maxCycles true).result =
      .error (.unknownWord d.machine.nextWord.toNat d.machine.pc.toNat)

theorem agree_runCycles {s : RunState} (hs : s.console.halted = some reason)
    (hstop : s.console.machine.StopsFor reason) (strict : Bool) (n : Nat) :
    s.console.Agree (runCycles strict n s).console := by
  cases n with
  | zero => exact Agree.refl _
  | succ n =>
      cases reason with
      | endMarker =>
          rw [runCycles_of_endMarker strict n hstop]
          exact .of_eq (halt_of_halted hs).symm
      | unknownWord =>
          have hstep := agree_of_stop hstop
          rw [runCycles_of_unknownWord strict n hstop]
          cases strict with
          | true => exact hstep
          | false =>
              have hs' : s.console.step.console.halted = some .unknownWord := by
                rw [halted_step]
                exact hs
              exact hstep.trans (.of_eq (halt_of_halted hs').symm)

theorem run_of_one_le {maxCycles : Int} (strict : Bool) (h : 1 ≤ maxCycles) :
    d.run maxCycles strict =
      runCycles strict (maxCycles.toNat - 1 + 1) ⟨d, 0, none, []⟩ := by
  rw [run, Nat.sub_add_cancel (by omega)]

/-- A run that begins at a word that stops the program halts, and notes why. -/
theorem halted_run {maxCycles : Int} (hstop : d.machine.StopsFor reason)
    (hmax : 1 ≤ maxCycles) : (d.run maxCycles false).console.halted = some reason := by
  rw [run_of_one_le false hmax]
  cases reason with
  | endMarker =>
      rw [runCycles_of_endMarker false _ hstop]
      rfl
  | unknownWord =>
      rw [runCycles_of_unknownWord false _ hstop]
      rfl

theorem atRest_of_stopsFor (hd : d.halted = some reason) (hstop : d.machine.StopsFor reason) :
    AtRest reason d where
  halted := hd
  stopsFor := hstop
  step := ⟨⟨_, by rw [step_of_stop hstop]⟩, agree_of_stop hstop⟩
  run maxCycles strict := agree_runCycles (s := ⟨d, 0, none, []⟩) hd hstop strict _
  runFrame := by rw [Console.runFrame, if_pos (by rw [hd]; rfl)]
  stopsAgain maxCycles strict hmax hcase := by
    rw [run_of_one_le strict hmax]
    cases reason with
    | endMarker =>
        rw [runCycles_of_endMarker strict _ hstop]
        exact ⟨_, rfl, rfl⟩
    | unknownWord =>
        rcases hcase with rfl | hreason
        · rw [runCycles_of_unknownWord false _ hstop]
          exact ⟨_, rfl, rfl⟩
        · cases hreason
  failsAgain maxCycles hmax hreason := by
    obtain rfl := hreason
    rw [run_of_one_le true hmax, runCycles_of_unknownWord true _ hstop]
    rfl

/-- **Halting is final, and for a reason.**  Whatever was asked of a console before, if its
program is noted as halted, it is at a word that justifies the note; and whatever is asked of
it later, until a program is started afresh, it stays there. -/
theorem final_of_halted (settings : Settings) (source : ByteSource)
    (history later : List Request) (reason : Halt)
    (hhalt : ((Console.new settings source).after history).halted = some reason)
    (hlater : ∀ r ∈ later, r.startsAfresh = false) :
    let c := (Console.new settings source).after history
    c.machine.StopsFor reason ∧ Frozen c (c.after later) ∧ AtRest reason (c.after later) := by
  intro c
  have hnew : Truthful (Console.new settings source) := fun _ h => nomatch h
  have hstop : c.machine.StopsFor reason := invariant_truthful.after history hnew reason hhalt
  have hfrozen : Frozen c (c.after later) :=
    (kept_frozen hhalt hstop).after later hlater (Frozen.refl c)
  exact ⟨hstop, hfrozen,
    atRest_of_stopsFor (hfrozen.halted.trans hhalt) (hfrozen.stopsFor hstop)⟩

/-- The word `F0FF` encodes no instruction. -/
theorem stopsFor_loaded (c : Console) :
    (c.loaded [0xF0, 0xFF]).machine.StopsFor .unknownWord := by
  have hpc : (c.loaded [0xF0, 0xFF]).machine.pc.toNat = Memory.programStart := rfl
  have hword : (c.loaded [0xF0, 0xFF]).machine.nextWord = 0xF0FF := by
    rw [Machine.nextWord, hpc]
    exact Memory.wordAt_store Memory.powerOn 0xF0 0xFF [] (by decide)
  refine ⟨?_, ?_, ?_⟩
  · rw [hpc]
    decide
  · rw [hword]
    decide
  · rw [hword]
    decide

/-- A run of that word halts; a tick, a strict run and another cycle come after it. -/
theorem final_of_halted_unknownWord :
    let c := (Console.new {} .zeros).after [.load [0xF0, 0xFF], .run 1 false]
    let later : List Request := [.tick, .run 3 true, .step]
    (c.halted = some .unknownWord ∧ ∀ r ∈ later, r.startsAfresh = false) ∧
      c.machine.StopsFor .unknownWord ∧ Frozen c (c.after later) ∧
        AtRest .unknownWord (c.after later) := by
  have hrun : (((Console.new {} .zeros).load [0xF0, 0xFF]).console.run 1 false).console.halted =
      some .unknownWord := by
    rw [load_of_le (by decide)]
    exact halted_run (stopsFor_loaded _) (by decide)
  have hhalt : ((Console.new {} .zeros).after [.load [0xF0, 0xFF], .run 1 false]).halted =
      some .unknownWord := by
    rw [after_cons, after_cons, after, List.foldl_nil, serve, serve]
    exact hrun
  have hlater : ∀ r ∈ ([.tick, .run 3 true, .step] : List Request), r.startsAfresh = false := by
    decide
  exact ⟨⟨hhalt, hlater⟩, final_of_halted {} .zeros _ _ .unknownWord hhalt hlater⟩

end ChipEight.Console
