/-
How many random bytes are drawn.

A console takes random bytes from its source, and that is all it ever does with the source.  So
whatever is asked of it depends on the source through finitely many bytes only, the ones that are
drawn.  `Draws` says this of a function of a console that answers something and leaves a console
behind: there is a number of bytes, and every source that begins with the same bytes gives the
same answer, leaves the same console behind, and loses just these bytes.

Doing one thing after the other adds the numbers up, which is `Draws.bind`.  Frames, runs and
sequences of interactions are put together in this way from single cycles, and a cycle draws one
byte at most.
-/
import ChipEight.Proofs.Console.Interactions

namespace ChipEight

namespace ByteSource

/-- The next bytes. -/
def take : ByteSource → Nat → List Byte
  | _, 0 => []
  | s, n + 1 => s.next.1 :: s.next.2.take n

/-- The source after some bytes. -/
def drop : ByteSource → Nat → ByteSource
  | s, 0 => s
  | s, n + 1 => s.next.2.drop n

theorem length_take (s : ByteSource) (n : Nat) : (s.take n).length = n := by
  induction n generalizing s with
  | zero => rfl
  | succ n ih => rw [take, List.length_cons, ih]

theorem take_add (s : ByteSource) (m n : Nat) :
    s.take (m + n) = s.take m ++ (s.drop m).take n := by
  induction m generalizing s with
  | zero => rw [Nat.zero_add]; rfl
  | succ m ih => rw [Nat.succ_add, take, ih, take, drop, List.cons_append]

theorem drop_add (s : ByteSource) (m n : Nat) : s.drop (m + n) = (s.drop m).drop n := by
  induction m generalizing s with
  | zero => rw [Nat.zero_add]; rfl
  | succ m ih => rw [Nat.succ_add, drop, ih, drop]

/-- Sources that agree for a while agree for the first part of it and then for the rest. -/
theorem take_add_inj {s t : ByteSource} {m n : Nat} (h : t.take (m + n) = s.take (m + n)) :
    t.take m = s.take m ∧ (t.drop m).take n = (s.drop m).take n := by
  rw [take_add, take_add] at h
  exact List.append_inj h (by rw [length_take, length_take])

end ByteSource

namespace Machine

variable {rules : Rules} {source : ByteSource} {m : Machine}

/-- Only one instruction draws a byte, and it draws a single one. -/
theorem executed_withSource {ins : Instruction} {effect : Effect}
    (he : Executed rules source m ins effect) :
    ∃ k, ∀ s : ByteSource, s.take k = source.take k →
      Executed rules s m ins { effect with source := s.drop k } := by
  cases he with
  | random x nn =>
      refine ⟨1, fun s hs => ?_⟩
      have hbyte : s.next.1 = source.next.1 := List.head_eq_of_cons_eq hs
      rw [← hbyte]
      exact .random x nn
  | _ => exact ⟨0, fun s _ => by constructor <;> assumption⟩

theorem step_withSource (rules : Rules) (source : ByteSource) (m : Machine) :
    ∃ k, ∀ s : ByteSource, s.take k = source.take k →
      m.step rules s = { m.step rules source with source := s.drop k } := by
  have hout := outcomes_step rules source m
  generalize m.step rules source = o at hout
  cases hout with
  | pastEnd hpc => exact ⟨0, fun s _ => step_pastEnd hpc⟩
  | unknown hpc hd => exact ⟨0, fun s _ => step_unknown hpc hd⟩
  | refused hpc hd hr => exact ⟨0, fun s _ => step_refused hpc hd hr⟩
  | executed hpc hd he =>
      obtain ⟨k, hk⟩ := executed_withSource he
      exact ⟨k, fun s hs => step_executed hpc hd (hk s hs)⟩

end Machine

namespace Console

/-- The console with another source of random bytes. -/
def withSource (c : Console) (s : ByteSource) : Console := { c with source := s }

/-- What `f` answers and leaves behind depends on the next bytes of the console's source only,
and these are drawn. -/
def Draws {α : Type} (f : Console → α × Console) (c : Console) : Prop :=
  ∃ k, ∀ s : ByteSource, s.take k = c.source.take k →
    f (c.withSource s) = ((f c).1, (f c).2.withSource (s.drop k))

variable {α β ε : Type} {c : Console}

namespace Draws

/-- What does not look at the source draws nothing. -/
theorem nothing {f : Console → α × Console}
    (h : ∀ s, f (c.withSource s) = ((f c).1, (f c).2.withSource s)) : Draws f c :=
  ⟨0, fun s _ => h s⟩

/-- Only the source of the console varies. -/
theorem congr {f g : Console → α × Console}
    (h : ∀ s, f (c.withSource s) = g (c.withSource s)) (hg : Draws g c) : Draws f c := by
  obtain ⟨k, hk⟩ := hg
  have hc : f c = g c := h c.source
  exact ⟨k, fun s hs => by rw [h, hc, hk s hs]⟩

/-- **What is drawn first and what is drawn next add up.** -/
theorem bind {f : Console → α × Console} {g : α → Console → β × Console} (hf : Draws f c)
    (hg : Draws (g (f c).1) (f c).2) : Draws (fun e => g (f e).1 (f e).2) c := by
  obtain ⟨j, hj⟩ := hf
  obtain ⟨k, hk⟩ := hg
  -- The console itself is a special case, so its own source loses the same bytes.
  have hsource : (f c).2.source = c.source.drop j :=
    congrArg (fun r => r.2.source) (hj c.source rfl)
  refine ⟨j + k, fun s hs => ?_⟩
  obtain ⟨hfirst, hnext⟩ := ByteSource.take_add_inj hs
  simp only [hj s hfirst]
  rw [hk (s.drop j) (by rw [hnext, hsource]), ByteSource.drop_add]

theorem map {f : Console → α × Console} (hf : Draws f c) (g : α → β) :
    Draws (fun e => (g (f e).1, (f e).2)) c :=
  hf.bind (g := fun a e => (g a, e)) (.nothing fun _ => rfl)

end Draws

/-! ### Cycles, frames and runs -/

/-- The result and the log of a reply, and its console. -/
def answered (r : Reply ε α) : (Except ε α × List LogRecord) × Console :=
  ((r.result, r.log), r.console)

theorem draws_step (c : Console) : Draws (fun e => answered e.step) c := by
  obtain ⟨k, hk⟩ := Machine.step_withSource c.rules c.source c.machine
  refine ⟨k, fun s hs => ?_⟩
  have hstep : (c.withSource s).machine.step (c.withSource s).rules (c.withSource s).source = _ :=
    hk s hs
  rcases ho : c.machine.step c.rules c.source with ⟨fault | cycle, m, source⟩
  · rw [ho] at hstep
    show answered (c.withSource s).step = ((answered c.step).1, (answered c.step).2.withSource _)
    rw [step_of_error hstep, step_of_error ho]
    rfl
  · rw [ho] at hstep
    show answered (c.withSource s).step = ((answered c.step).1, (answered c.step).2.withSource _)
    rw [step_of_ok hstep, step_of_ok ho]
    rfl

/-- What the cycles of a frame come to, and the console after them. -/
def framed (r : Option Fault × Progress) :
    (Option Fault × List Cycle × List LogRecord) × Console :=
  ((r.1, r.2.done, r.2.log), r.2.console)

/-- How a frame goes on after a cycle. -/
def frameNext (n : Nat) (done : List Cycle) (log : List LogRecord) :
    Except Fault Cycle × List LogRecord → Console →
      (Option Fault × List Cycle × List LogRecord) × Console
  | (.error fault, noted) => fun e => ((some fault, done, noted.reverse ++ log), e)
  | (.ok cycle, noted) =>
    let p (e : Console) : Progress := ⟨e, cycle :: done, noted.reverse ++ log⟩
    if cycle.isEndOfProgram then fun e => framed (none, (p e).halt .endMarker)
    else if !cycle.isImplemented then fun e => framed (none, (p e).halt .unknownWord)
    else if cycle.waiting then fun e => framed (none, p e)
    else fun e => framed (frameCycles n (p e))

theorem framed_succ (n : Nat) (e : Console) (done : List Cycle) (log : List LogRecord) :
    framed (frameCycles (n + 1) ⟨e, done, log⟩) =
      frameNext n done log (answered e.step).1 (answered e.step).2 := by
  rw [frameCycles]
  rcases e.step with ⟨fault | cycle, d, noted⟩
  · rfl
  · simp only [frameNext, answered]
    split
    · rfl
    split
    · rfl
    split <;> rfl

theorem draws_frameCycles (n : Nat) :
    ∀ (c : Console) (done : List Cycle) (log : List LogRecord),
      Draws (fun e => framed (frameCycles n ⟨e, done, log⟩)) c := by
  induction n with
  | zero => intro c done log; exact .nothing fun _ => rfl
  | succ n ih =>
      intro c done log
      refine .congr (fun s => framed_succ n _ done log) ((draws_step c).bind ?_)
      generalize answered c.step = r
      obtain ⟨⟨fault | cycle, noted⟩, d⟩ := r
      · exact .nothing fun _ => rfl
      · simp only [frameNext]
        split
        · exact .nothing fun _ => rfl
        split
        · exact .nothing fun _ => rfl
        split
        · exact .nothing fun _ => rfl
        · exact ih d _ _

/-- The reply of a frame whose cycles have come to an end. -/
def frameEnd :
    Option Fault × List Cycle × List LogRecord → Console →
      (Except Fault (List Cycle) × List LogRecord) × Console
  | (some fault, _, log), e => ((.error fault, log.reverse), e)
  | (none, done, log), e => ((.ok done.reverse, log.reverse), e.tick)

theorem answered_runFrame {e : Console} (h : e.halted = none) :
    answered e.runFrame =
      frameEnd (framed (frameCycles e.settings.cyclesPerFrame ⟨e, [], []⟩)).1
        (framed (frameCycles e.settings.cyclesPerFrame ⟨e, [], []⟩)).2 := by
  rw [runFrame, h, if_neg (by simp)]
  rcases frameCycles e.settings.cyclesPerFrame ⟨e, [], []⟩ with ⟨_ | fault, p⟩ <;> rfl

theorem draws_runFrame (c : Console) : Draws (fun e => answered e.runFrame) c := by
  cases hh : c.halted with
  | some reason =>
      refine .nothing fun s => ?_
      have hs : (c.withSource s).halted = some reason := hh
      simp only [runFrame, hh, hs]
      rfl
  | none =>
      have hend : ∀ s, answered (c.withSource s).runFrame = _ :=
        fun s => answered_runFrame (e := c.withSource s) hh
      refine .congr hend ((draws_frameCycles c.settings.cyclesPerFrame c [] []).bind ?_)
      generalize framed (frameCycles c.settings.cyclesPerFrame ⟨c, [], []⟩) = r
      obtain ⟨⟨fault | _, done, log⟩, d⟩ := r
      · exact .nothing fun _ => rfl
      · exact .nothing fun _ => rfl

/-- How a run goes on after a cycle. -/
def runNext (strict : Bool) (n cycles : Nat) (last : Option Cycle) (log : List LogRecord) :
    Except Fault Cycle × List LogRecord → Console →
      (Except Failure RunResult × List LogRecord) × Console
  | (.error fault, noted) => fun e =>
    answered (RunState.fail ⟨e, cycles, last, noted.reverse ++ log⟩ (.fault fault))
  | (.ok cycle, noted) =>
    let s (e : Console) : RunState := ⟨e, cycles + 1, some cycle, noted.reverse ++ log⟩
    if cycle.isImplemented then fun e => answered (runCycles strict n (s e))
    else if strict then fun e =>
      answered ((s e).fail (.unknownWord cycle.word.toNat cycle.address.toNat))
    else fun e => answered ((s e).finish .unknownWord)

theorem answered_succ (strict : Bool) (n cycles : Nat) (last : Option Cycle)
    (log : List LogRecord) {e : Console} {word : Word} (hpeek : e.peek = .ok word)
    (hne : word ≠ 0) :
    answered (runCycles strict (n + 1) ⟨e, cycles, last, log⟩) =
      runNext strict n cycles last log (answered e.step).1 (answered e.step).2 := by
  simp only [runCycles, hpeek, if_neg hne]
  rcases e.step with ⟨fault | cycle, d, noted⟩
  · rfl
  · simp only [runNext, answered]
    split
    · rfl
    split <;> rfl

theorem draws_runCycles (strict : Bool) (n : Nat) :
    ∀ (c : Console) (cycles : Nat) (last : Option Cycle) (log : List LogRecord),
      Draws (fun e => answered (runCycles strict n ⟨e, cycles, last, log⟩)) c := by
  induction n with
  | zero => intro c cycles last log; exact .nothing fun _ => rfl
  | succ n ih =>
      intro c cycles last log
      cases hpeek : c.peek with
      | error fault =>
          refine .nothing fun s => ?_
          have hs : (c.withSource s).peek = .error fault := hpeek
          simp only [runCycles, hpeek, hs]
          rfl
      | ok word =>
          by_cases h0 : word = 0
          · refine .nothing fun s => ?_
            have hs : (c.withSource s).peek = .ok word := hpeek
            simp only [runCycles, hpeek, hs, if_pos h0]
            rfl
          · have hsucc (s : ByteSource) :
                answered (runCycles strict (n + 1) ⟨c.withSource s, cycles, last, log⟩) = _ :=
              answered_succ strict n cycles last log (e := c.withSource s) hpeek h0
            refine .congr hsucc ((draws_step c).bind ?_)
            generalize answered c.step = r
            obtain ⟨⟨fault | cycle, noted⟩, d⟩ := r
            · exact .nothing fun _ => rfl
            · simp only [runNext]
              split
              · exact ih d _ _ _
              split
              · exact .nothing fun _ => rfl
              · exact .nothing fun _ => rfl

/-! ### Interactions -/

theorem load_withSource (c : Console) (s : ByteSource) (data : List Byte) :
    ((c.withSource s).load data).console = (c.load data).console.withSource s := by
  by_cases h : data.length ≤ Memory.programLimit
  · rw [load_of_le h, load_of_le h]
    rfl
  · rw [load_of_lt (Nat.not_le.mp h), load_of_lt (Nat.not_le.mp h)]

theorem draws_key (c : Console) (key : Keypad.Key) (down : Bool) :
    Draws (fun e => (e.reply (.ofKey key down), e.serve (.ofKey key down))) c := by
  refine .nothing fun s => ?_
  have hkeypad : (c.withSource s).machine.keypad = c.machine.keypad := rfl
  simp only [reply_ofKey, serve_ofKey, key_eq_map, hkeypad]
  cases c.machine.keypad.change .standard key down <;> rfl

theorem draws_request (c : Console) (r : Request) : Draws (fun e => (e.reply r, e.serve r)) c := by
  cases r with
  | load data =>
      refine .nothing fun s => ?_
      simp only [reply, serve, load_result, load_withSource]
  | loadFile path entry =>
      refine .nothing fun s => ?_
      simp only [reply, serve, loadFile_result, loadFile_console]
      cases entry.contents with
      | error e => rfl
      | ok data => simp only [load_result, load_withSource]
  | step => exact (draws_step c).map fun a => Answer.cycle a.1
  | run maxCycles strict =>
      exact (draws_runCycles strict maxCycles.toNat c 0 none []).map fun a => Answer.run a.1
  | runFrame => exact (draws_runFrame c).map fun a => Answer.frame a.1
  | press key => exact draws_key c key true
  | release key => exact draws_key c key false
  | reset => exact .nothing fun _ => rfl
  | tick => exact .nothing fun _ => rfl
  | snapshot => exact .nothing fun _ => rfl

theorem draws_interaction (c : Console) (i : Interaction) :
    Draws (fun e => (e.answer i, e.meet i)) c := by
  cases i with
  | request r => exact draws_request c r
  | look l => exact .nothing fun s => by cases l <;> rfl

/-- **Whatever a host does with a console, only finitely many random bytes matter for it.** -/
theorem draws_transcript (asked : List Interaction) :
    ∀ c : Console, Draws (fun e => (e.transcript asked, e.through asked)) c := by
  induction asked with
  | nil => intro c; exact .nothing fun _ => rfl
  | cons i rest ih =>
      intro c
      have hrest : Draws (fun e => ((i, c.answer i) :: e.transcript rest, e.through rest))
          (c.meet i) :=
        (ih (c.meet i)).map fun told => (i, c.answer i) :: told
      exact (draws_interaction c i).bind
        (g := fun a e => ((i, a) :: e.transcript rest, e.through rest)) hrest

end Console
end ChipEight
