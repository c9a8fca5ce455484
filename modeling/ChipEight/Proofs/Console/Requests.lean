/-
Requests to a console, one after the other.

`Request` is everything that a host may ask of a console, and `after` is the console that a
sequence of requests leaves behind, whether they succeed or fail.  A program is started afresh
by a reset and by a load that fits into memory; every other request goes on with it.

`Served` lists what a request can come to.  Whatever holds of a console after any sequence of
requests is proved through the structures `KeptRunning`, `Kept` and `Invariant`.  They ask for
the few elementary changes only: a cycle, a halt at a word that justifies it, a tick, a change
of the keypad, and a look at the display.  Runs and frames are made of these, and the induction
over their cycles is done here once for all.
-/
import ChipEight.Proofs.Console.Loops
import ChipEight.Proofs.Machine.Loading

namespace ChipEight

/-- What a host may ask of a console. -/
inductive Request where
  /-- Load a program. -/
  | load (data : List Byte)
  /-- Load a program from what stands at a path. -/
  | loadFile (path : String) (entry : Files.Entry)
  /-- Switch the machine off and on. -/
  | reset
  /-- Execute one instruction. -/
  | step
  /-- Run the program for a number of cycles. -/
  | run (maxCycles : Int) (strict : Bool)
  /-- Execute one frame. -/
  | runFrame
  /-- Count the timers down. -/
  | tick
  /-- Press a key. -/
  | press (key : Keypad.Key)
  /-- Release a key. -/
  | release (key : Keypad.Key)
  /-- Take a snapshot of the display. -/
  | snapshot
  deriving DecidableEq, Repr

/-- The request that presses a key, or releases it. -/
def Request.ofKey (key : Keypad.Key) (down : Bool) : Request :=
  if down then .press key else .release key

/-- Whether the request presses or releases a key. -/
def Request.isKey : Request → Bool
  | press _ | release _ => true
  | _ => false

/-- Whether the request starts a program afresh, because it succeeds in doing so. -/
def Request.startsAfresh : Request → Bool
  | load data => decide (data.length ≤ Memory.programLimit)
  | loadFile _ entry =>
    match entry.contents with
    | .ok data => decide (data.length ≤ Memory.programLimit)
    | .error _ => false
  | reset => true
  | _ => false

namespace Console

/-- The console with a program just loaded. -/
def loaded (c : Console) (data : List Byte) : Console :=
  ⟨c.settings, Machine.withProgram data, c.source, none, 0, data.length⟩

/-- The console with another keypad. -/
def withKeypad (c : Console) (keypad : Keypad) : Console :=
  { c with machine := { c.machine with keypad := keypad } }

/-- The console with the change of its display marked as seen. -/
def seen (c : Console) : Console :=
  { c with machine := { c.machine with display := c.machine.display.snapshot.2 } }

/-- The console that a request leaves behind. -/
def serve (c : Console) : Request → Console
  | .load data => (c.load data).console
  | .loadFile path entry => (c.loadFile path entry).console
  | .reset => c.reset
  | .step => c.step.console
  | .run maxCycles strict => (c.run maxCycles strict).console
  | .runFrame => c.runFrame.console
  | .tick => c.tick
  | .press key =>
    match c.press key with
    | .ok c => c
    | .error _ => c
  | .release key =>
    match c.release key with
    | .ok c => c
    | .error _ => c
  | .snapshot => c.seen

/-- The console after a sequence of requests. -/
def after (c : Console) (requests : List Request) : Console := requests.foldl serve c

theorem after_cons (c : Console) (r : Request) (rest : List Request) :
    c.after (r :: rest) = (c.serve r).after rest := rfl

/-! ### What requests come down to -/

variable {c : Console}

theorem load_of_le {data : List Byte} (h : data.length ≤ Memory.programLimit) :
    c.load data = ⟨.ok (), c.loaded data, c.machine.loadLog data⟩ := by
  rw [load, Machine.load_of_fits h]
  rfl

theorem load_of_lt {data : List Byte} (h : Memory.programLimit < data.length) :
    c.load data = ⟨.error (.rom (.tooLarge data.length Memory.programLimit)), c,
      c.machine.loadLog data⟩ := by
  rw [load, Machine.load_of_large h]

theorem loadFile_console (path : String) (entry : Files.Entry) :
    (c.loadFile path entry).console =
      match entry.contents with
      | .ok data => (c.load data).console
      | .error _ => c := by
  rw [loadFile]
  cases entry.contents <;> rfl

/-- A reset forgets no part of the console: only the settings and the source are kept. -/
theorem reset_eq_new (c : Console) : c.reset = .new c.settings c.source := by
  rw [reset, Machine.reset_eq_powerOn]
  rfl

/-- A reset is the loading of no program. -/
theorem reset_eq_loaded : c.reset = c.loaded [] := by
  rw [reset_eq_new, new, loaded, Machine.withProgram_nil]
  rfl

theorem key_eq_ok {key : Keypad.Key} {down : Bool} {d : Console} (h : c.key key down = .ok d) :
    ∃ keypad, d = c.withKeypad keypad := by
  rw [Console.key] at h
  cases hk : c.machine.keypad.change .standard key down with
  | error e => rw [hk] at h; cases h
  | ok keypad =>
      rw [hk] at h
      exact ⟨keypad, (Except.ok.inj h).symm⟩

theorem serve_ofKey (c : Console) (key : Keypad.Key) (down : Bool) :
    c.serve (.ofKey key down) =
      match c.key key down with
      | .ok c => c
      | .error _ => c := by
  cases down <;> rfl

/-- What a request can come to. -/
inductive Served (c : Console) : Request → Console → Prop
  /-- It fails and changes nothing. -/
  | refused (r : Request) : Served c r c
  /-- It starts a program afresh. -/
  | loaded {r : Request} {data : List Byte} (hr : r.startsAfresh = true)
      (hdata : data.length ≤ Memory.programLimit) : Served c r (c.loaded data)
  | step : Served c .step c.step.console
  | run (maxCycles : Int) (strict : Bool) :
      Served c (.run maxCycles strict) (c.run maxCycles strict).console
  | runFrame : Served c .runFrame c.runFrame.console
  | tick : Served c .tick c.tick
  | press (key : Keypad.Key) (keypad : Keypad) : Served c (.press key) (c.withKeypad keypad)
  | release (key : Keypad.Key) (keypad : Keypad) : Served c (.release key) (c.withKeypad keypad)
  | snapshot : Served c .snapshot c.seen

theorem served_load (data : List Byte) {r : Request}
    (hr : r.startsAfresh = decide (data.length ≤ Memory.programLimit)) :
    Served c r (c.load data).console := by
  by_cases h : data.length ≤ Memory.programLimit
  · rw [load_of_le h]
    exact .loaded (by simpa [h] using hr) h
  · rw [load_of_lt (Nat.not_le.mp h)]
    exact .refused r

/-- **Every request comes to one of these.** -/
theorem served (c : Console) (r : Request) : Served c r (c.serve r) := by
  cases r with
  | load data => exact served_load data rfl
  | loadFile path entry =>
      show Served c _ (c.loadFile path entry).console
      rw [loadFile_console]
      cases he : entry.contents with
      | error e => exact .refused _
      | ok data => exact served_load data (by simp only [Request.startsAfresh, he])
  | reset =>
      show Served c _ c.reset
      rw [reset_eq_loaded]
      exact .loaded rfl (Nat.zero_le _)
  | step => exact .step
  | run maxCycles strict => exact .run maxCycles strict
  | runFrame => exact .runFrame
  | tick => exact .tick
  | press key =>
      show Served c _ (match c.press key with | .ok d => d | .error _ => c)
      cases hk : c.press key with
      | error e => exact .refused _
      | ok d =>
          obtain ⟨keypad, rfl⟩ := key_eq_ok hk
          exact .press key keypad
  | release key =>
      show Served c _ (match c.release key with | .ok d => d | .error _ => c)
      cases hk : c.release key with
      | error e => exact .refused _
      | ok d =>
          obtain ⟨keypad, rfl⟩ := key_eq_ok hk
          exact .release key keypad
  | snapshot => exact .snapshot

/-- A key changes the keypad at most. -/
theorem serve_of_isKey {r : Request} (h : r.isKey = true) :
    ∃ keypad, c.serve r = c.withKeypad keypad := by
  have hserved := served c r
  generalize c.serve r = d at hserved ⊢
  cases hserved with
  | refused => exact ⟨c.machine.keypad, rfl⟩
  | loaded hfresh hdata => cases r <;> simp [Request.isKey, Request.startsAfresh] at h hfresh
  | press key keypad | release key keypad => exact ⟨keypad, rfl⟩
  | _ => cases h

/-! ### Properties that requests keep -/

/-- A property that is kept while a program runs. -/
structure KeptRunning (P : Console → Prop) : Prop where
  step : ∀ c, P c → P c.step.console
  halt : ∀ c reason, P c → c.machine.StopsFor reason → P (c.halt reason).1
  tick : ∀ c, P c → P c.tick

/-- A property that is kept as long as no program is started afresh. -/
structure Kept (P : Console → Prop) : Prop extends KeptRunning P where
  withKeypad : ∀ c keypad, P c → P (c.withKeypad keypad)
  seen : ∀ c, P c → P c.seen

/-- A property that every request keeps. -/
structure Invariant (P : Console → Prop) : Prop extends Kept P where
  loaded : ∀ c data, data.length ≤ Memory.programLimit → P c → P (c.loaded data)

namespace KeptRunning

variable {P : Console → Prop}

/-- A frame is made of cycles, and perhaps one halt after the last of them. -/
theorem frameCycles (h : KeptRunning P) :
    ∀ (n : Nat) (p : Progress), P p.console → P (frameCycles n p).2.console := by
  intro n
  induction n with
  | zero => intro p hp; exact hp
  | succ n ih =>
      intro p hp
      have hstep : P p.console.step.console := h.step p.console hp
      rcases round_cases p.console with ⟨fault, hfault⟩ | ⟨reason, hstop⟩ | ⟨cycle, hok, himp⟩
      · rw [frameCycles_of_fault n hfault]
        exact hstep
      · rw [frameCycles_of_stop n hstop]
        exact h.halt _ reason hstep (stopsFor_step hstop)
      · cases hw : cycle.waiting with
        | true =>
            rw [frameCycles_of_waiting n hok hw]
            exact hstep
        | false =>
            rw [frameCycles_of_implemented n hok himp hw]
            exact ih _ hstep

theorem runFrame (h : KeptRunning P) (hc : P c) : P c.runFrame.console := by
  rw [Console.runFrame]
  split
  · exact hc
  · have hp := h.frameCycles c.settings.cyclesPerFrame ⟨c, [], []⟩ hc
    rcases hf : Console.frameCycles c.settings.cyclesPerFrame ⟨c, [], []⟩ with ⟨_ | fault, p⟩
    · rw [hf] at hp
      exact h.tick _ hp
    · rw [hf] at hp
      exact hp

/-- A run is made of cycles, and perhaps one halt before or after the last of them. -/
theorem runCycles (h : KeptRunning P) (strict : Bool) :
    ∀ (n : Nat) (s : RunState), P s.console → P (runCycles strict n s).console := by
  intro n
  induction n with
  | zero => intro s hs; exact hs
  | succ n ih =>
      intro s hs
      have hstep : P s.console.step.console := h.step s.console hs
      rcases round_cases s.console with ⟨fault, hfault⟩ | ⟨reason, hstop⟩ | ⟨cycle, hok, himp⟩
      · rw [runCycles_of_fault strict n hfault]
        exact hstep
      · cases reason with
        | endMarker =>
            rw [runCycles_of_endMarker strict n hstop]
            exact h.halt _ .endMarker hs hstop
        | unknownWord =>
            rw [runCycles_of_unknownWord strict n hstop]
            cases strict with
            | true => exact hstep
            | false => exact h.halt _ .unknownWord hstep (stopsFor_step hstop)
      · rw [runCycles_of_implemented strict n hok himp]
        exact ih _ hstep

theorem run (h : KeptRunning P) (maxCycles : Int) (strict : Bool) (hc : P c) :
    P (c.run maxCycles strict).console :=
  h.runCycles strict maxCycles.toNat ⟨c, 0, none, []⟩ hc

end KeptRunning

namespace Kept

variable {P : Console → Prop}

theorem serve (h : Kept P) {r : Request} (hr : r.startsAfresh = false) (hc : P c) :
    P (c.serve r) := by
  have hserved := served c r
  generalize c.serve r = d at hserved ⊢
  cases hserved with
  | refused => exact hc
  | loaded hfresh hdata => simp [hr] at hfresh
  | step => exact h.step c hc
  | run maxCycles strict => exact h.run maxCycles strict hc
  | runFrame => exact h.runFrame hc
  | tick => exact h.tick c hc
  | press key keypad => exact h.withKeypad c keypad hc
  | release key keypad => exact h.withKeypad c keypad hc
  | snapshot => exact h.seen c hc

/-- **What is kept by the elementary changes holds until a program is started afresh.** -/
theorem after (h : Kept P) :
    ∀ (requests : List Request) {c : Console}, (∀ r ∈ requests, r.startsAfresh = false) →
      P c → P (c.after requests) := by
  intro requests
  induction requests with
  | nil => intro c _ hc; exact hc
  | cons r rest ih =>
      intro c hr hc
      rw [after_cons]
      exact ih (fun q hq => hr q (by simp [hq])) (h.serve (hr r (by simp)) hc)

end Kept

namespace Invariant

variable {P : Console → Prop}

theorem serve (h : Invariant P) (r : Request) (hc : P c) : P (c.serve r) := by
  cases hr : r.startsAfresh with
  | false => exact h.toKept.serve hr hc
  | true =>
      have hserved := served c r
      generalize c.serve r = d at hserved ⊢
      cases hserved with
      | refused => exact hc
      | loaded hfresh hdata => exact h.loaded c _ hdata hc
      | _ => cases hr

/-- **An invariant holds after every sequence of requests.** -/
theorem after (h : Invariant P) :
    ∀ (requests : List Request) {c : Console}, P c → P (c.after requests) := by
  intro requests
  induction requests with
  | nil => intro c hc; exact hc
  | cons r rest ih =>
      intro c hc
      rw [after_cons]
      exact ih (h.serve r hc)

end Invariant
end Console
end ChipEight
