/-
Timers count frames.

Two instructions set a timer, one for each of the two, and no other instruction touches them.  What
counts a timer down is the tick at the end of a frame.  A frame may end because its cycles are
spent, because the program halts, or because an instruction waits for a key, and it ticks in each
of these cases.  It does not tick if a cycle fails, and once the program has halted there are no
frames any more.

So over a sequence of frames a timer that no instruction sets loses one for each frame that was
executed to its end, and it stays at zero when it gets there.  Cycles and runs that are asked for
outside of frames do not count.
-/
import ChipEight.Proofs.Console.Budget
import ChipEight.Proofs.Console.Lockstep
import ChipEight.Proofs.Console.Requests

namespace ChipEight

/-- The two timers. -/
inductive Timer where
  | delay
  | sound
  deriving DecidableEq, Repr

/-- The word of the instruction that sets the timer to the contents of a register. -/
def Timer.setter : Timer → Register → Word
  | delay, x => .withByte 0xF x 0x15
  | sound, x => .withByte 0xF x 0x18

/-- The cycle executes the instruction that sets the timer. -/
def Cycle.Sets (cycle : Cycle) (t : Timer) : Prop := ∃ x, cycle.word = t.setter x

namespace Machine

variable {rules : Rules} {source : ByteSource} {m : Machine}

/-- The value of a timer. -/
def timer (m : Machine) : Timer → Byte
  | .delay => m.delay
  | .sound => m.sound

/-- A tick counts down by one, and not below zero. -/
theorem toNat_timer_tick (m : Machine) (t : Timer) :
    (m.tick.timer t).toNat = (m.timer t).toNat - 1 := by
  have hdown : ∀ b : Byte, (if b = 0 then 0 else b - 1).toNat = b.toNat - 1 := by decide
  cases t with
  | delay => exact hdown m.delay
  | sound => exact hdown m.sound

/-- A cycle that does not set the timer leaves it alone, also if it fails. -/
theorem timer_step (t : Timer)
    (h : ∀ cycle, (m.step rules source).result = .ok cycle → ¬cycle.Sets t) :
    (m.step rules source).machine.timer t = m.timer t := by
  have hout := outcomes_step rules source m
  generalize m.step rules source = o at h hout ⊢
  cases hout with
  | pastEnd | unknown | refused => cases t <;> rfl
  | @executed hpc ins effect hd he =>
      have hword : m.nextWord = ins.encode := (Instruction.encode_of_decode hd).symm
      have hset : ¬∃ x, m.nextWord = t.setter x := h _ rfl
      cases he with
      | setDelay x =>
          cases t with
          | delay => exact absurd ⟨x, hword⟩ hset
          | sound => rfl
      | setSound x =>
          cases t with
          | delay => rfl
          | sound => exact absurd ⟨x, hword⟩ hset
      | _ => cases t <;> rfl

/-- A cycle that sets the timer sets it to the register of its word. -/
theorem timer_of_setter {t : Timer} {x : Register} {cycle : Cycle}
    (h : (m.step rules source).result = .ok cycle) (hw : m.nextWord = t.setter x) :
    (m.step rules source).machine.timer t = m.v.read x := by
  cases t with
  | delay =>
      obtain ⟨effect, he, hstep⟩ := executed_of_step (.setDelay x) hw h
      rw [hstep]
      cases he
      rfl
  | sound =>
      obtain ⟨effect, he, hstep⟩ := executed_of_step (.setSound x) hw h
      rw [hstep]
      cases he
      rfl

end Machine

namespace Console

variable {c d : Console} {t : Timer} {strict : Bool} {n : Nat} {done : List Cycle}

/-! ### Cycles and runs -/

/-- What a cycle makes of a timer. -/
structure StepTimer (t : Timer) (c : Console) : Prop where
  set : ∀ cycle x, c.step.result = .ok cycle → cycle.word = t.setter x →
    c.step.console.machine.timer t = c.machine.v.read x
  kept : (∀ cycle, c.step.result = .ok cycle → ¬cycle.Sets t) →
    c.step.console.machine.timer t = c.machine.timer t

theorem stepTimer (t : Timer) (c : Console) : StepTimer t c where
  set cycle x hok hword := by
    have hnext : c.machine.nextWord = t.setter x := (cycle_of_step hok).2.2.symm.trans hword
    rw [machine_step]
    exact Machine.timer_of_setter ((step_result c).symm.trans hok) hnext
  kept h := by
    rw [machine_step]
    exact Machine.timer_step t fun cycle hok => h cycle ((step_result c).trans hok)

theorem timer_step_of_ok {cycle : Cycle} (h : c.step.result = .ok cycle) (hset : ¬cycle.Sets t) :
    c.step.console.machine.timer t = c.machine.timer t := by
  refine (stepTimer t c).kept fun cycle' hok => ?_
  obtain rfl := Except.ok.inj (h.symm.trans hok)
  exact hset

theorem timer_step_of_fault {fault : Fault} (h : c.step.result = .error fault) :
    c.step.console.machine.timer t = c.machine.timer t :=
  (stepTimer t c).kept fun cycle hok => by cases h.symm.trans hok

/-- At a word that stops a program nothing is set. -/
theorem timer_step_of_stop {reason : Halt} (h : c.machine.StopsFor reason) :
    c.step.console.machine.timer t = c.machine.timer t := by
  rw [step_of_stop h]
  cases t <;> rfl

theorem Executes.timer (h : Executes c done d) (hset : ∀ cycle ∈ done, ¬cycle.Sets t) :
    d.machine.timer t = c.machine.timer t := by
  induction h with
  | nil c => rfl
  | cons h himp hrest ih =>
      rw [ih fun cycle hmem => hset cycle (List.mem_cons_of_mem _ hmem)]
      exact timer_step_of_ok h (hset _ List.mem_cons_self)

/-- **A run leaves a timer alone that none of its cycles sets**, however it ends. -/
theorem Ends.timer {result : Except Failure RunResult} (h : Ends strict n c done result d)
    (hset : ∀ cycle ∈ done, ¬cycle.Sets t) : d.machine.timer t = c.machine.timer t := by
  cases h with
  | spent hexec hn => exact hexec.timer hset
  | endMarker hexec hn hstop => exact hexec.timer hset
  | unknownWord hexec hn hstop hs | strictWord hexec hn hstop hs =>
      rw [List.forall_mem_append] at hset
      exact (timer_step_of_stop hstop).trans (hexec.timer hset.1)
  | fault hexec hn hfault => exact (timer_step_of_fault hfault).trans (hexec.timer hset)

/-! ### How a frame ends -/

/-- How a frame of at most `n` cycles ends: the cycles that it has completed, the fault if there is
one, and the console that it leaves behind.  The tick is still to come. -/
inductive FrameEnds (n : Nat) (c : Console) : List Cycle → Option Fault → Console → Prop
  /-- The cycles are spent. -/
  | spent {done : List Cycle} {d : Console} (hdone : Executes c done d)
      (hgoing : ∀ cycle ∈ done, cycle.waiting = false) (hn : done.length = n) :
      FrameEnds n c done none d
  /-- The program halts; the word that stops it is the last one. -/
  | halts {done : List Cycle} {d : Console} {reason : Halt} (hdone : Executes c done d)
      (hgoing : ∀ cycle ∈ done, cycle.waiting = false) (hn : done.length < n)
      (hstop : d.machine.StopsFor reason) :
      FrameEnds n c (done ++ [d.unknownCycle]) none (d.step.console.halt reason).1
  /-- The last cycle waits for a key. -/
  | waits {done : List Cycle} {d : Console} {last : Cycle} (hdone : Executes c done d)
      (hgoing : ∀ cycle ∈ done, cycle.waiting = false) (hn : done.length < n)
      (hlast : d.step.result = .ok last) (hw : last.waiting = true) :
      FrameEnds n c (done ++ [last]) none d.step.console
  /-- The next cycle fails; it is not completed. -/
  | fault {done : List Cycle} {d : Console} {fault : Fault} (hdone : Executes c done d)
      (hgoing : ∀ cycle ∈ done, cycle.waiting = false) (hn : done.length < n)
      (hfault : d.step.result = .error fault) :
      FrameEnds n c done (some fault) d.step.console

namespace FrameEnds

variable {fault : Option Fault}

theorem cons {cycle : Cycle} (h : c.step.result = .ok cycle) (himp : cycle.isImplemented = true)
    (hw : cycle.waiting = false) (hends : FrameEnds n c.step.console done fault d) :
    FrameEnds (n + 1) c (cycle :: done) fault d := by
  cases hends with
  | spent hdone hgoing hn =>
      exact .spent (hdone.cons h himp) (List.forall_mem_cons.mpr ⟨hw, hgoing⟩)
        (congrArg (· + 1) hn)
  | halts hdone hgoing hn hstop =>
      exact .halts (hdone.cons h himp) (List.forall_mem_cons.mpr ⟨hw, hgoing⟩)
        (Nat.succ_lt_succ hn) hstop
  | waits hdone hgoing hn hlast hwait =>
      exact .waits (hdone.cons h himp) (List.forall_mem_cons.mpr ⟨hw, hgoing⟩)
        (Nat.succ_lt_succ hn) hlast hwait
  | fault hdone hgoing hn hfault =>
      exact .fault (hdone.cons h himp) (List.forall_mem_cons.mpr ⟨hw, hgoing⟩)
        (Nat.succ_lt_succ hn) hfault

/-- A frame leaves a timer alone that none of its cycles sets, until its tick. -/
theorem timer (h : FrameEnds n c done fault d) (hset : ∀ cycle ∈ done, ¬cycle.Sets t) :
    d.machine.timer t = c.machine.timer t := by
  cases h with
  | spent hdone hgoing hn => exact hdone.timer hset
  | halts hdone hgoing hn hstop =>
      rw [List.forall_mem_append] at hset
      exact (timer_step_of_stop hstop).trans (hdone.timer hset.1)
  | waits hdone hgoing hn hlast hwait =>
      rw [List.forall_mem_append] at hset
      exact (timer_step_of_ok hlast (hset.2 _ List.mem_cons_self)).trans (hdone.timer hset.1)
  | fault hdone hgoing hn hfault => exact (timer_step_of_fault hfault).trans (hdone.timer hset)

/-- A frame that fails has not halted the program, and no cycle before the fault has waited. -/
theorem of_fault {fault : Fault} (h : FrameEnds n c done (some fault) d) :
    d.halted = c.halted ∧ ∀ cycle ∈ done, cycle.waiting = false := by
  cases h with
  | fault hdone hgoing hn hfault => exact ⟨(halted_step _).trans hdone.halted_eq, hgoing⟩

end FrameEnds

/-- **Every frame ends in one of these ways.** -/
theorem frameCycles_ends (n : Nat) :
    ∀ p : Progress, ∃ done, (frameCycles n p).2.done = done.reverse ++ p.done ∧
      FrameEnds n p.console done (frameCycles n p).1 (frameCycles n p).2.console := by
  induction n with
  | zero => intro p; exact ⟨[], rfl, .spent (.nil p.console) (fun _ h => nomatch h) rfl⟩
  | succ n ih =>
      intro p
      have hnil : ∀ cycle ∈ ([] : List Cycle), cycle.waiting = false := fun _ h => nomatch h
      have hstart := Executes.nil p.console
      rcases round_cases p.console with ⟨fault, hfault⟩ | ⟨reason, hstop⟩ | ⟨cycle, hok, himp⟩
      · rw [frameCycles_of_fault n hfault]
        exact ⟨[], rfl, .fault hstart hnil (Nat.succ_pos n) hfault⟩
      · rw [frameCycles_of_stop n hstop]
        exact ⟨_, rfl, .halts hstart hnil (Nat.succ_pos n) hstop⟩
      · cases hw : cycle.waiting with
        | true =>
            rw [frameCycles_of_waiting n hok hw]
            exact ⟨_, rfl, .waits hstart hnil (Nat.succ_pos n) hok hw⟩
        | false =>
            rw [frameCycles_of_implemented n hok himp hw]
            obtain ⟨done, hdone, hends⟩ := ih (p.next cycle)
            refine ⟨cycle :: done, ?_, hends.cons hok himp hw⟩
            rw [hdone, Progress.next, List.reverse_cons, List.append_assoc]
            rfl

/-! ### One frame -/

/-- The cycles that a frame completes, also if it fails in the end. -/
def frameDone (c : Console) : List Cycle :=
  if c.halted.isSome then []
  else (frameCycles c.settings.cyclesPerFrame ⟨c, [], []⟩).2.done.reverse

/-- The frame is executed to its end: the program has not halted before, and no cycle fails. -/
def FramePasses (c : Console) : Prop := c.halted = none ∧ c.runFrame.result.isOk = true

instance (c : Console) : Decidable c.FramePasses := inferInstanceAs (Decidable (_ ∧ _))

/-- What a frame makes of a timer. -/
structure FrameTimer (t : Timer) (c : Console) : Prop where
  /-- A frame that is executed to its end ticks after its last cycle, whether its cycles are spent,
  the program halts, or it waits for a key. -/
  passes : c.FramePasses → ∃ d,
    FrameEnds c.settings.cyclesPerFrame c c.frameDone none d ∧
      c.runFrame.result = .ok c.frameDone ∧ c.runFrame.console = d.tick ∧
      ((∀ cycle ∈ c.frameDone, ¬cycle.Sets t) →
        (c.runFrame.console.machine.timer t).toNat = (c.machine.timer t).toNat - 1)
  /-- The frame in which the program halts is executed to its end. -/
  halts : c.halted = none → c.runFrame.console.halted ≠ none → c.FramePasses
  /-- So is a frame in which an instruction waits for a key. -/
  waits : ∀ cycle ∈ c.frameDone, cycle.waiting = true → c.FramePasses
  /-- A frame that fails does not tick. -/
  fails : ∀ fault, c.runFrame.result = .error fault →
    FrameEnds c.settings.cyclesPerFrame c c.frameDone (some fault) c.runFrame.console ∧
      ((∀ cycle ∈ c.frameDone, ¬cycle.Sets t) →
        c.runFrame.console.machine.timer t = c.machine.timer t)
  /-- Once the program has halted, a frame does nothing. -/
  halted : c.halted ≠ none → c.frameDone = [] ∧ c.runFrame = ⟨.ok [], c, []⟩

theorem runFrame_of_halted (h : c.halted ≠ none) : c.runFrame = ⟨.ok [], c, []⟩ := by
  rw [runFrame, if_pos (Option.isSome_iff_ne_none.mpr h)]

theorem frameDone_of_halted (h : c.halted ≠ none) : c.frameDone = [] := by
  rw [frameDone, if_pos (Option.isSome_iff_ne_none.mpr h)]

/-- A frame of a program that has not halted is a round of cycles, and a tick unless they fail. -/
theorem runFrame_ends (h : c.halted = none) :
    (∃ d, FrameEnds c.settings.cyclesPerFrame c c.frameDone none d ∧
        c.runFrame.result = .ok c.frameDone ∧ c.runFrame.console = d.tick) ∨
      ∃ fault, FrameEnds c.settings.cyclesPerFrame c c.frameDone (some fault) c.runFrame.console ∧
        c.runFrame.result = .error fault := by
  obtain ⟨done, hdone, hends⟩ := frameCycles_ends c.settings.cyclesPerFrame ⟨c, [], []⟩
  replace hdone : (frameCycles c.settings.cyclesPerFrame ⟨c, [], []⟩).2.done.reverse = done := by
    rw [hdone, List.append_nil, List.reverse_reverse]
  rw [frameDone, runFrame, if_neg (by simp [h]), if_neg (by simp [h]), hdone]
  generalize frameCycles c.settings.cyclesPerFrame ⟨c, [], []⟩ = r at hdone hends ⊢
  obtain ⟨fault | fault, p⟩ := r
  · exact .inl ⟨p.console, hends, congrArg Except.ok hdone, rfl⟩
  · exact .inr ⟨fault, hends, rfl⟩

theorem framePasses_of_ok (h : c.halted = none) {done : List Cycle}
    (hr : c.runFrame.result = .ok done) : c.FramePasses := ⟨h, by rw [hr]; rfl⟩

theorem framePasses_or_fails (h : c.halted = none) :
    c.FramePasses ∨ ∃ fault, c.runFrame.result = .error fault := by
  cases hr : c.runFrame.result with
  | ok done => exact .inl (framePasses_of_ok h hr)
  | error fault => exact .inr ⟨fault, rfl⟩

theorem halted_eq_none_of_fault {fault : Fault} (hr : c.runFrame.result = .error fault) :
    c.halted = none := by
  refine Decidable.byContradiction fun h => ?_
  rw [runFrame_of_halted h] at hr
  cases hr

theorem frameTimer (t : Timer) (c : Console) : FrameTimer t c := by
  have hfails : ∀ fault, c.runFrame.result = .error fault →
      FrameEnds c.settings.cyclesPerFrame c c.frameDone (some fault) c.runFrame.console := by
    intro fault hr
    obtain ⟨d, -, hok, -⟩ | ⟨fault', hends, hr'⟩ := runFrame_ends (halted_eq_none_of_fault hr)
    · cases hr.symm.trans hok
    · obtain rfl := Except.error.inj (hr.symm.trans hr')
      exact hends
  constructor
  case passes =>
    rintro ⟨h, hok⟩
    obtain ⟨d, hends, hr, hd⟩ | ⟨fault, -, hr⟩ := runFrame_ends h
    · refine ⟨d, hends, hr, hd, fun hset => ?_⟩
      rw [hd, ← hends.timer hset]
      exact Machine.toNat_timer_tick d.machine t
    · rw [hr] at hok
      cases hok
  case halts =>
    intro h hhalted
    refine (framePasses_or_fails h).resolve_right fun ⟨fault, hr⟩ => hhalted ?_
    rw [(hfails fault hr).of_fault.1, h]
  case waits =>
    intro cycle hmem hw
    have h : c.halted = none := by
      refine Decidable.byContradiction fun h => ?_
      rw [frameDone_of_halted h] at hmem
      cases hmem
    refine (framePasses_or_fails h).resolve_right fun ⟨fault, hr⟩ => ?_
    rw [(hfails fault hr).of_fault.2 cycle hmem] at hw
    cases hw
  case fails => exact fun fault hr => ⟨hfails fault hr, (hfails fault hr).timer⟩
  case halted => exact fun h => ⟨frameDone_of_halted h, runFrame_of_halted h⟩

/-! ### Many frames -/

/-- The cycles that are completed in the frames of a sequence of requests. -/
def framesDone : Console → List Request → List Cycle
  | _, [] => []
  | c, r :: rest => (if r = .runFrame then c.frameDone else []) ++ (c.serve r).framesDone rest

/-- How many frames of a sequence of requests are executed to their end. -/
def framesPassed : Console → List Request → Nat
  | _, [] => 0
  | c, r :: rest =>
    (if r = .runFrame ∧ c.FramePasses then 1 else 0) + (c.serve r).framesPassed rest

theorem timer_runFrame (hset : ∀ cycle ∈ c.frameDone, ¬cycle.Sets t) :
    (c.runFrame.console.machine.timer t).toNat =
      (c.machine.timer t).toNat - if c.FramePasses then 1 else 0 := by
  have hframe := frameTimer t c
  split
  · rename_i hp
    obtain ⟨d, -, -, -, htimer⟩ := hframe.passes hp
    exact htimer hset
  · rename_i hp
    cases h : c.halted with
    | some reason => rw [(hframe.halted (by simp [h])).2, Nat.sub_zero]
    | none =>
        obtain ⟨fault, hr⟩ := (framePasses_or_fails h).resolve_left hp
        rw [(hframe.fails fault hr).2 hset, Nat.sub_zero]

/-- Keys do not touch the timers. -/
theorem timer_serve_key {r : Request} (h : r.isKey = true) :
    (c.serve r).machine.timer t = c.machine.timer t := by
  obtain ⟨keypad, hkeypad⟩ := serve_of_isKey (c := c) h
  rw [hkeypad]
  cases t <;> rfl

/-- **Each frame that is executed to its end counts once.** -/
theorem timer_after :
    ∀ (asked : List Request) {c : Console}, (∀ r ∈ asked, r = .runFrame ∨ r.isKey = true) →
      (∀ cycle ∈ c.framesDone asked, ¬cycle.Sets t) →
        ((c.after asked).machine.timer t).toNat =
          (c.machine.timer t).toNat - c.framesPassed asked := by
  intro asked
  induction asked with
  | nil => intro c _ _; rfl
  | cons r rest ih =>
      intro c hasked hset
      rw [framesDone, List.forall_mem_append] at hset
      rw [after_cons, framesPassed,
        ih (fun q hq => hasked q (List.mem_cons_of_mem r hq)) hset.2, ← Nat.sub_sub]
      congr 1
      rcases hasked r List.mem_cons_self with rfl | hkey
      · rw [if_pos rfl] at hset
        simp only [true_and]
        exact timer_runFrame hset.1
      · have hne : r ≠ .runFrame := by
          rintro rfl
          cases hkey
        rw [timer_serve_key hkey, if_neg fun h => hne h.1, Nat.sub_zero]

/-- **Timers count frames, not instructions.**  Over frames with keys in between, a timer that no
cycle sets loses one for each frame that is executed to its end, and stays at zero when it gets
there.  Only the instruction for it sets a timer, in a cycle, in a run or in a frame. -/
theorem timers_count_frames (t : Timer) :
    (∀ (c : Console) (asked : List Request), (∀ r ∈ asked, r = .runFrame ∨ r.isKey = true) →
      (∀ cycle ∈ c.framesDone asked, ¬cycle.Sets t) →
        (((c.after asked).machine.timer t).toNat : Int) =
          max 0 ((c.machine.timer t).toNat - c.framesPassed asked)) ∧
    (∀ c, FrameTimer t c) ∧
    (∀ c : Console, (c.tick.machine.timer t).toNat = (c.machine.timer t).toNat - 1) ∧
    (∀ c, StepTimer t c) ∧
    ∀ (c : Console) (maxCycles : Int) (strict : Bool) (done : List Cycle),
      Accounted c maxCycles strict done (c.run maxCycles strict) →
        (∀ cycle ∈ done, ¬cycle.Sets t) →
          (c.run maxCycles strict).console.machine.timer t = c.machine.timer t := by
  refine ⟨fun c asked hasked hset => ?_, frameTimer t,
    fun c => Machine.toNat_timer_tick c.machine t, stepTimer t,
    fun c maxCycles strict done haccounted => haccounted.ends.timer⟩
  rw [timer_after asked hasked hset]
  omega

/-- A program that waits for a key and then comes to its end.  The first frame waits, the second one
finds the key and halts, and the third one does nothing. -/
theorem timers_count_frames_untilEnd :
    let c := (Console.new {} .zeros).loaded [0xF0, 0x0A, 0x00, 0x00]
    let d := c.withMachine { c.machine with delay := 9 }
    let asked : List Request := [.runFrame, .press (.number 3), .runFrame, .runFrame]
    ((∀ r ∈ asked, r = .runFrame ∨ r.isKey = true) ∧
        ∀ cycle ∈ d.framesDone asked, ¬cycle.Sets .delay) ∧
      d.framesPassed asked = 2 ∧ (((d.after asked).machine.timer .delay).toNat : Int) = 7 := by
  intro c d asked
  have hasked : ∀ r ∈ asked, r = .runFrame ∨ r.isKey = true := by decide
  obtain ⟨hpassed, hwords⟩ :
      d.framesPassed asked = 2 ∧ ∀ cycle ∈ d.framesDone asked, cycle.word.nn ≠ 0x15 := by
    decide +kernel
  have hset : ∀ cycle ∈ d.framesDone asked, ¬cycle.Sets .delay := by
    rintro cycle hmem ⟨x, hword⟩
    exact hwords cycle hmem (by rw [hword]; exact Word.nn_withByte 0xF x 0x15)
  have hcount := (timers_count_frames .delay).1 d asked hasked hset
  rw [hpassed] at hcount
  exact ⟨⟨hasked, hset⟩, hpassed, hcount⟩

end Console
end ChipEight
