/-
Running a program for many cycles.

There are two ways.  A frame executes a fixed number of cycles and then counts the timers
down once; it ends early at the end marker, at an unknown word, or while an instruction waits
for a key, and once the program has halted a frame does nothing.  A run executes up to a
given number of cycles without touching the timers; it looks for the end marker before each
cycle, so the marker is never executed, and it keeps repeating an instruction that waits.
A strict run fails at an unknown word instead of halting there.
-/
import ChipEight.Console.Basic

namespace ChipEight.Console

/-- A frame or a run under way. -/
structure Progress where
  /-- The console now. -/
  console : Console
  /-- The cycles so far, the latest first. -/
  done : List Cycle
  /-- The log so far, the latest first. -/
  log : List LogRecord

/-- Marks the program as halted. -/
def Progress.halt (p : Progress) (h : Halt) : Progress :=
  let (console, note) := p.console.halt h
  ⟨console, p.done, note :: p.log⟩

/-- Executes up to `n` cycles of a frame.  The first part is the fault that ended it, if there
was one. -/
def frameCycles : Nat → Progress → Option Fault × Progress
  | 0, p => (none, p)
  | n + 1, ⟨console, done, log⟩ =>
    match console.step with
    | ⟨.error fault, console, noted⟩ => (some fault, ⟨console, done, noted.reverse ++ log⟩)
    | ⟨.ok cycle, console, noted⟩ =>
      let p : Progress := ⟨console, cycle :: done, noted.reverse ++ log⟩
      if cycle.isEndOfProgram then (none, p.halt .endMarker)
      else if !cycle.isImplemented then (none, p.halt .unknownWord)
      else if cycle.waiting then (none, p)
      else frameCycles n p

/-- Executes one frame and answers with its cycles.  A frame that fails does not reach the
tick of the timers. -/
def runFrame (c : Console) : Reply Fault (List Cycle) :=
  if c.halted.isSome then ⟨.ok [], c, []⟩
  else
    match frameCycles c.settings.cyclesPerFrame ⟨c, [], []⟩ with
    | (some fault, p) => ⟨.error fault, p.console, p.log.reverse⟩
    | (none, p) => ⟨.ok p.done.reverse, p.console.tick, p.log.reverse⟩

/-- A run under way. -/
structure RunState where
  /-- The console now. -/
  console : Console
  /-- How many cycles were executed so far. -/
  cycles : Nat
  /-- The last cycle so far. -/
  last : Option Cycle
  /-- The log so far, the latest first. -/
  log : List LogRecord

namespace RunState

/-- The reply of a run that failed. -/
def fail (s : RunState) (f : Failure) : Reply Failure RunResult :=
  ⟨.error f, s.console, s.log.reverse⟩

/-- The reply of a run whose program halted. -/
def finish (s : RunState) (h : Halt) : Reply Failure RunResult :=
  let (console, note) := s.console.halt h
  ⟨.ok ⟨s.cycles, some h, s.last⟩, console, (note :: s.log).reverse⟩

/-- The reply of a run whose cycles are spent. -/
def spent (s : RunState) : Reply Failure RunResult :=
  ⟨.ok ⟨s.cycles, none, s.last⟩, s.console, s.log.reverse⟩

end RunState

/-- Goes on with a run for up to `n` more cycles. -/
def runCycles (strict : Bool) : Nat → RunState → Reply Failure RunResult
  | 0, s => s.spent
  | n + 1, ⟨console, cycles, last, log⟩ =>
    match console.peek with
    | .error fault => RunState.fail ⟨console, cycles, last, log⟩ (.fault fault)
    | .ok word =>
      if word = 0 then RunState.finish ⟨console, cycles, last, log⟩ .endMarker
      else
        match console.step with
        | ⟨.error fault, console, noted⟩ =>
          RunState.fail ⟨console, cycles, last, noted.reverse ++ log⟩ (.fault fault)
        | ⟨.ok cycle, console, noted⟩ =>
          let s : RunState := ⟨console, cycles + 1, some cycle, noted.reverse ++ log⟩
          if cycle.isImplemented then runCycles strict n s
          else if strict then s.fail (.unknownWord cycle.word.toNat cycle.address.toNat)
          else s.finish .unknownWord

/-- How many cycles a run may take unless something else is asked for. -/
def defaultMaxCycles : Int := 1000000

/-- Runs the program for up to `maxCycles` cycles. -/
def run (c : Console) (maxCycles : Int) (strict : Bool) : Reply Failure RunResult :=
  runCycles strict maxCycles.toNat ⟨c, 0, none, []⟩

end ChipEight.Console
