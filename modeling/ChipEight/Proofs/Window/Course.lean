/-
The course of a program in a window.

Whenever the time for a frame has come, the window asks its console for one, until a frame fails
or leaves the program halted; after that it asks for none.  Keys and drawing go on as before.
`played` tells this as a course of requests to the console, without a window, and `plays` says
that the console in the window takes the same course.

The window keeps the fault of the frame that failed, and at that moment it closes.  No frame
before or after makes it close again, and a program that just halts leaves it open.  Whoever
opened the window is told of the fault at the end, and not earlier: no frame passes it on.  A frame
would pass on a fault that is not the program's own, so this rests on a frame having no other.
-/
import ChipEight.Proofs.Console.Calls
import ChipEight.Proofs.Console.Faults
import ChipEight.Window.Basic

namespace ChipEight

/-- Requests about keys, timers or the display neither note a halt nor forget one. -/
theorem Console.halted_after_of_isAside :
    ∀ (between : List Request) (c : Console), (∀ r ∈ between, r.isAside = true) →
      (c.after between).halted = c.halted := by
  intro between
  induction between with
  | nil => intro c _; rfl
  | cons r rest ih =>
      intro c hr
      rw [after_cons, ih (c.serve r) fun q hq => hr q (List.mem_cons_of_mem r hq)]
      have haside := hr r List.mem_cons_self
      have hserved := served c r
      generalize c.serve r = d at hserved ⊢
      cases hserved with
      | loaded hfresh hdata =>
          cases r <;> simp [Request.isAside, Request.startsAfresh] at haside hfresh
      | step | run | runFrame => cases haside
      | _ => rfl

namespace Console

/-- A frame that fails has failed at one of its cycles. -/
theorem isOfProgram_of_frameCycles {fault : Fault} (n : Nat) :
    ∀ p : Progress, (frameCycles n p).1 = some fault → fault.cause.isOfProgram = true := by
  induction n with
  | zero => intro p h; cases h
  | succ n ih =>
      intro p h
      rcases round_cases p.console with ⟨fault', hfault⟩ | ⟨reason, hstop⟩ | ⟨cycle, hok, himp⟩
      · rw [frameCycles_of_fault n hfault] at h
        obtain rfl := Option.some.inj h
        exact isOfProgram_of_step hfault
      · rw [frameCycles_of_stop n hstop] at h
        cases h
      · cases hw : cycle.waiting with
        | true =>
            rw [frameCycles_of_waiting n hok hw] at h
            cases h
        | false =>
            rw [frameCycles_of_implemented n hok himp hw] at h
            exact ih _ h

theorem isOfProgram_of_runFrame {c : Console} {fault : Fault}
    (h : c.runFrame.result = .error fault) : fault.cause.isOfProgram = true := by
  rw [runFrame] at h
  split at h
  · cases h
  · have hcycles : (frameCycles c.settings.cyclesPerFrame ⟨c, [], []⟩).1 = some fault →
        fault.cause.isOfProgram = true := isOfProgram_of_frameCycles _ _
    rcases hrun : frameCycles c.settings.cyclesPerFrame ⟨c, [], []⟩ with ⟨_ | fault', p⟩
    · rw [hrun] at h
      cases h
    · rw [hrun] at h hcycles
      obtain rfl := Except.error.inj h
      exact hcycles rfl

end Console

namespace Window

/-- The request for a change of a key, if a symbol stands for one. -/
def keyAsked (symbols : List (Int × Int)) (symbol : Int) (down : Bool) : List Request :=
  match Table.get? symbol symbols with
  | none => []
  | some key => [.ofKey (.number key) down]

/-- What a console is asked for when something happens at its window, apart from frames. -/
def asksAside (symbols : List (Int × Int)) : Action → List Request
  | .press symbol =>
    if symbol = Symbol.escape then [] else keyAsked symbols symbol true
  | .release symbol => keyAsked symbols symbol false
  | .draw => [.snapshot]
  | .frame | .close => []

/-- The course of a console that is asked for each frame up to the first one that fails or leaves
the program halted, and for none afterwards; and the fault of that frame. -/
def played (symbols : List (Int × Int)) : Console → List Action → Console × Option Fault
  | c, [] => (c, none)
  | c, .frame :: rest =>
    let d := c.runFrame.console
    match c.runFrame.result with
    | .error fault => (d.after (rest.flatMap (asksAside symbols)), some fault)
    | .ok _ =>
      if d.halted.isSome then (d.after (rest.flatMap (asksAside symbols)), none)
      else played symbols d rest
  | c, a :: rest => played symbols (c.after (asksAside symbols a)) rest

/-- What a window does when it is told to advance, each time that this happens. -/
def frameEvents (w : Window) : List Action → List Event
  | [] => []
  | a :: rest =>
    (if a = .frame then (w.respond a).events else []) ++ (w.respond a).window.frameEvents rest

variable {w : Window}

/-! ### One response -/

/-- What becomes of a window that responds to anything but a frame. -/
def Aside (w : Window) (a : Action) (w' : Window) : Prop :=
  ∃ copy, w' = { w with console := w.console.after (asksAside w.symbols a), copy := copy }

theorem key_window (symbol : Int) (down : Bool) :
    (w.key symbol down).window =
      { w with console := w.console.after (keyAsked w.symbols symbol down) } := by
  rw [key, keyAsked]
  cases Table.get? symbol w.symbols with
  | none => rfl
  | some k =>
      show _ = { w with console := w.console.serve (.ofKey (.number k) down) }
      rw [Console.serve_ofKey]
      cases hkey : w.console.key (.number k) down <;> simp only [hkey]

theorem aside_respond {a : Action} (ha : a ≠ .frame) : w.Aside a (w.respond a).window := by
  cases a with
  | frame => exact absurd rfl ha
  | press symbol =>
      show w.Aside _ (w.press symbol).window
      rw [press, Aside, asksAside]
      split
      · exact ⟨w.copy, rfl⟩
      · exact ⟨w.copy, key_window symbol true⟩
  | release symbol => exact ⟨w.copy, key_window symbol false⟩
  | draw =>
      show w.Aside _ w.draw.window
      rw [draw]
      cases hdirty : w.console.machine.display.dirty with
      | true => exact ⟨_, rfl⟩
      | false =>
          refine ⟨w.copy, ?_⟩
          have hseen : w.console.seen = w.console := by
            rw [Console.seen, Display.snapshot, ← hdirty]
          show w = { w with console := w.console.seen }
          rw [hseen]
  | close => exact ⟨w.copy, rfl⟩

theorem isAside_asksAside (symbols : List (Int × Int)) (a : Action) :
    ∀ r ∈ asksAside symbols a, r.isAside = true := by
  have hkey : ∀ symbol down, ∀ r ∈ keyAsked symbols symbol down, r.isAside = true := by
    intro symbol down r hr
    rw [keyAsked] at hr
    cases hk : Table.get? symbol symbols with
    | none => simp [hk] at hr
    | some k =>
        obtain rfl : r = _ := by simpa [hk] using hr
        cases down <;> rfl
  cases a with
  | press symbol =>
      rw [asksAside]
      split
      · simp
      · exact hkey symbol true
  | release symbol => exact hkey symbol false
  | draw => simp [asksAside, Request.isAside]
  | frame => simp [asksAside]
  | close => simp [asksAside]

/-- The window asks for no more frames. -/
def Stopped (w : Window) : Prop := (w.failure.isSome || w.console.halted.isSome) = true

theorem frame_of_stopped (h : w.Stopped) : w.frame = ⟨.ok false, w, [], []⟩ := by
  rw [Stopped] at h
  rw [frame, if_pos h]

theorem frame_of_fault (h : ¬w.Stopped) {fault : Fault}
    (hf : w.console.runFrame.result = .error fault) :
    w.frame.result = .ok false ∧ w.frame.events = [.unscheduled, .closed] ∧
      w.frame.window =
        { w with console := w.console.runFrame.console, failure := some fault } := by
  rw [Stopped] at h
  rw [frame, if_neg h]
  rcases hr : w.console.runFrame with ⟨result, d, log⟩
  have hprogram := Console.isOfProgram_of_runFrame hf
  rw [hr] at hf
  obtain rfl : result = .error fault := hf
  dsimp only
  rw [if_pos hprogram]
  exact ⟨rfl, rfl, rfl⟩

theorem frame_of_ok (h : ¬w.Stopped) {cycles : List Cycle}
    (hok : w.console.runFrame.result = .ok cycles) :
    w.frame.result = .ok false ∧ w.frame.events = [] ∧
      w.frame.window = { w with console := w.console.runFrame.console } := by
  rw [Stopped] at h
  rw [frame, if_neg h]
  rcases hr : w.console.runFrame with ⟨result, d, log⟩
  rw [hr] at hok
  obtain rfl : result = .ok cycles := hok
  exact ⟨rfl, rfl, rfl⟩

/-! ### The whole course -/

theorem after_cons (w : Window) (a : Action) (rest : List Action) :
    w.after (a :: rest) = (w.respond a).window.after rest := rfl

/-- What a window comes to that asks for no more frames. -/
structure Idle (w : Window) (actions : List Action) : Prop where
  console : (w.after actions).console = w.console.after (actions.flatMap (asksAside w.symbols))
  failure : (w.after actions).failure = w.failure
  events : w.frameEvents actions = []

/-- **A window that has stopped stays so,** and only keys and drawing go on. -/
theorem idle_of_stopped : ∀ (actions : List Action) {w : Window}, w.Stopped → w.Idle actions := by
  intro actions
  induction actions with
  | nil => intro w _; exact ⟨rfl, rfl, rfl⟩
  | cons a rest ih =>
      intro w h
      by_cases ha : a = .frame
      · subst ha
        have hidle := ih h
        have hframe : w.respond .frame = _ := frame_of_stopped h
        refine ⟨?_, ?_, ?_⟩
        · rw [after_cons, hframe]
          exact hidle.console
        · rw [after_cons, hframe]
          exact hidle.failure
        · rw [frameEvents, hframe]
          exact hidle.events
      · obtain ⟨copy, hw⟩ := aside_respond (w := w) ha
        -- Neither keys nor drawing touch what has stopped the window.
        have hidle : Idle (w.respond a).window rest := by
          refine ih ?_
          rw [hw, Stopped, Console.halted_after_of_isAside _ _ (isAside_asksAside _ _)]
          exact h
        refine ⟨?_, ?_, ?_⟩
        · rw [after_cons, hidle.console, hw, List.flatMap_cons]
          exact (List.foldl_append ..).symm
        · rw [after_cons, hidle.failure, hw]
        · rw [frameEvents, hidle.events, if_neg ha]
          rfl

theorem played_aside (symbols : List (Int × Int)) (c : Console) {a : Action} (rest : List Action)
    (ha : a ≠ .frame) :
    played symbols c (a :: rest) = played symbols (c.after (asksAside symbols a)) rest := by
  cases a with
  | frame => exact absurd rfl ha
  | _ => rfl

/-- What a window comes to from the start, if it has not failed before. -/
structure Plays (w : Window) (actions : List Action) : Prop where
  course : ((w.after actions).console, (w.after actions).failure) =
    played w.symbols w.console actions
  /-- For all frames together, the window closes once if one of them has failed. -/
  events : w.frameEvents actions =
    if (w.after actions).failure.isSome then [.unscheduled, .closed] else []

section Plays

variable {rest : List Action}

/-- A program that had halted before is asked for no frame, and would not have executed one. -/
theorem plays_of_stopped (h : w.failure = none) (hs : w.Stopped) : w.Plays (.frame :: rest) := by
  have hhalted : w.console.halted.isSome = true := by
    rw [Stopped, h] at hs
    exact hs
  have hrun : w.console.runFrame = ⟨.ok [], w.console, []⟩ := by
    rw [Console.runFrame, if_pos hhalted]
  have hidle := idle_of_stopped (.frame :: rest) hs
  refine ⟨?_, ?_⟩
  · simp only [played, hrun, if_pos hhalted]
    exact Prod.ext hidle.console (hidle.failure.trans h)
  · rw [hidle.events, hidle.failure, h]
    rfl

theorem plays_of_fault (hs : ¬w.Stopped) {fault : Fault}
    (hf : w.console.runFrame.result = .error fault) : w.Plays (.frame :: rest) := by
  obtain ⟨-, hevents, hw⟩ := frame_of_fault hs hf
  have hidle : w.frame.window.Idle rest := idle_of_stopped rest (by rw [hw]; rfl)
  have hfailure : (w.after (.frame :: rest)).failure = some fault := by
    rw [after_cons, respond, hidle.failure, hw]
  refine ⟨?_, ?_⟩
  · simp only [played, hf]
    rw [hfailure, after_cons, respond, hidle.console, hw]
  · rw [hfailure]
    show w.frame.events ++ w.frame.window.frameEvents rest = _
    rw [hevents, hidle.events]
    rfl

theorem plays_of_ok (h : w.failure = none) (hs : ¬w.Stopped) {cycles : List Cycle}
    (hok : w.console.runFrame.result = .ok cycles) (hrest : w.frame.window.Plays rest) :
    w.Plays (.frame :: rest) := by
  obtain ⟨-, hevents, hw⟩ := frame_of_ok hs hok
  refine ⟨?_, ?_⟩
  · by_cases hhalted : w.console.runFrame.console.halted.isSome = true
    · have hidle : w.frame.window.Idle rest :=
        idle_of_stopped rest (by rw [hw, Stopped, hhalted, Bool.or_true])
      simp only [played, hok, if_pos hhalted]
      rw [after_cons, respond, hidle.console, hidle.failure, hw, h]
    · simp only [played, hok, if_neg hhalted]
      rw [after_cons, respond, hrest.course, hw]
  · show w.frame.events ++ w.frame.window.frameEvents rest = _
    rw [hevents, hrest.events]
    rfl

theorem plays_of_ne_frame {a : Action} (ha : a ≠ .frame)
    (hrest : (w.respond a).window.Plays rest) : w.Plays (a :: rest) := by
  obtain ⟨copy, hw⟩ := aside_respond (w := w) ha
  refine ⟨?_, ?_⟩
  · rw [after_cons, hrest.course, hw, played_aside _ _ _ ha]
  · rw [frameEvents, hrest.events, if_neg ha]
    rfl

end Plays

/-- **The console in a window takes the course that is told without a window,** and the window
closes once if it fails. -/
theorem plays : ∀ (actions : List Action) {w : Window}, w.failure = none → w.Plays actions := by
  intro actions
  induction actions with
  | nil =>
      intro w h
      refine ⟨Prod.ext rfl h, ?_⟩
      show [] = if w.failure.isSome then _ else []
      rw [h]
      rfl
  | cons a rest ih =>
      intro w h
      by_cases ha : a = .frame
      · subst ha
        by_cases hs : w.Stopped
        · exact plays_of_stopped h hs
        cases hr : w.console.runFrame.result with
        | error fault => exact plays_of_fault hs hr
        | ok cycles =>
            have hw := (frame_of_ok hs hr).2.2
            exact plays_of_ok h hs hr (ih (by rw [hw]; exact h))
      · obtain ⟨copy, hw⟩ := aside_respond (w := w) ha
        exact plays_of_ne_frame ha (ih (by rw [hw]; exact h))

/-- A response to a frame that passes no fault on: the window closes if the frame has failed, and
keeps the fault; otherwise it does nothing and its fault is the one from before, if any. -/
structure Discreet (w : Window) (r : Response) : Prop where
  result : r.result = .ok false
  closes : (w.failure = none ∧ r.window.failure.isSome ∧ r.events = [.unscheduled, .closed]) ∨
    (r.window.failure = w.failure ∧ r.events = [])

theorem discreet_frame (w : Window) : w.Discreet w.frame := by
  by_cases hs : w.Stopped
  · rw [frame_of_stopped hs]
    exact ⟨rfl, .inr ⟨rfl, rfl⟩⟩
  cases hr : w.console.runFrame.result with
  | error fault =>
      obtain ⟨hresult, hevents, hw⟩ := frame_of_fault hs hr
      have hnone : w.failure = none := by
        cases hf : w.failure with
        | none => rfl
        | some f => exact absurd (by rw [Stopped, hf]; rfl) hs
      exact ⟨hresult, .inl ⟨hnone, by rw [hw]; rfl, hevents⟩⟩
  | ok cycles =>
      obtain ⟨hresult, hevents, hw⟩ := frame_of_ok hs hr
      exact ⟨hresult, .inr ⟨by rw [hw], hevents⟩⟩

section New

variable (constants : Symbol.Constants) (console : Console) (scale : Option Int)
  (caption : Option String)

theorem present_result (actions : List Action) :
    (present constants console scale caption actions).result =
      match ((newOn constants console scale caption none).1.after actions).failure with
      | some fault => .error fault
      | none => .ok () := rfl

theorem newOn_symbols (layout : Option Keypad.Layout) :
    (newOn constants console scale caption layout).1.symbols =
      Symbol.tableOf constants (effectiveLayout layout) := rfl

theorem newOn_console (layout : Option Keypad.Layout) :
    (newOn constants console scale caption layout).1.console = console.seen := rfl

end New

/-- **A window plays its program until the first stop, and no further.**  Whatever constants the
system has for keys, and whatever happens to a window, its console takes the course in which every
frame is executed up to the first one that fails or leaves the program halted, and none afterwards.
The fault of that frame is the one that the window keeps, and it is never replaced.  For frames the
window is unscheduled and closed exactly once if it has failed, which is at the frame that fails,
and never if the program just halts; and no frame passes a fault on.  Whoever presents a console in
a window is told of the fault in the end. -/
theorem plays_until_stopped (constants : Symbol.Constants) (console : Console)
    (scale : Option Int) (caption : Option String) (layout : Option Keypad.Layout) :
    let w := (newOn constants console scale caption layout).1
    (∀ actions, ((w.after actions).console, (w.after actions).failure) =
      played w.symbols console.seen actions) ∧
    (∀ actions later fault, (w.after actions).failure = some fault →
      (w.after (actions ++ later)).failure = some fault) ∧
    (∀ actions, w.frameEvents actions =
      if (w.after actions).failure.isSome then [.unscheduled, .closed] else []) ∧
    (∀ actions, (w.after actions).Discreet ((w.after actions).respond .frame)) ∧
    ∀ actions, (present constants console scale caption actions).result =
      match (played (Symbol.tableOf constants .standard) console.seen actions).2 with
      | some fault => .error fault
      | none => .ok () := by
  intro w
  refine ⟨fun actions => (plays actions rfl).course, fun actions later fault h => ?_,
    fun actions => (plays actions rfl).events, fun actions => discreet_frame _,
    fun actions => ?_⟩
  · have hidle : (w.after actions).Idle later :=
      idle_of_stopped later (by rw [Stopped, h]; rfl)
    rw [after, List.foldl_append]
    exact hidle.failure.trans h
  · have hcourse :=
      (plays actions (w := (newOn constants console scale caption none).1) rfl).course
    rw [newOn_symbols, newOn_console, effectiveLayout] at hcourse
    rw [present_result, ← hcourse]

end Window
end ChipEight
