/-
The window: a console shown on a screen and played with a keyboard.

The window is described by what it does in response to what happens to it.  At regular
intervals it is told to advance by one frame; it is told of keys that go down or up, and it
is asked to draw itself.  What it does in turn, such as clearing the screen or painting one
pixel, is a list of events.

The window keeps a copy of the pixels and renews it only when the display says that it has
changed.  It stops for good at the first fault; a program that halts leaves it open.
-/
import ChipEight.Console.Run
import ChipEight.Window.Symbol

namespace ChipEight

/-- A window with its console. -/
structure Window where
  /-- The console that is shown. -/
  console : Console
  /-- The side of a pixel on the screen. -/
  scale : Int
  /-- The symbols that the window listens to, with their keypad keys. -/
  symbols : List (Int × Int)
  /-- The copy of the pixels. -/
  copy : Pixels
  /-- The fault that stopped the program, if there was one. -/
  failure : Option Fault

namespace Window

/-- What a window does. -/
inductive Event where
  /-- Opens on the screen with a size and perhaps a caption; the size is fixed. -/
  | opened (width height : Int) (caption : Option String)
  /-- Prepares the white square that stands for a lit pixel. -/
  | prepared (side : Int)
  /-- Asks to be told to advance, so many times in a second. -/
  | scheduled (frequency : Nat)
  /-- Waits for things to happen until it is closed. -/
  | entered
  /-- Clears the screen. -/
  | cleared
  /-- Paints the white square with its lower left corner at a position. -/
  | painted (x y : Int)
  /-- Asks not to be told to advance any more. -/
  | unscheduled
  /-- Closes. -/
  | closed
  deriving DecidableEq, Repr

/-- What happens to a window. -/
inductive Action where
  /-- The time for the next frame has come. -/
  | frame
  /-- A key goes down. -/
  | press (symbol : Int)
  /-- A key goes up. -/
  | release (symbol : Int)
  /-- The window is asked to draw itself. -/
  | draw
  /-- The window is asked to close. -/
  | close
  deriving DecidableEq, Repr

/-- What a window passes on to whoever told it that something happened. -/
inductive Escape where
  /-- The keypad has refused a key. -/
  | keypad (e : Keypad.Error)
  /-- The program was stopped. -/
  | fault (f : Fault)
  deriving DecidableEq, Repr

/-- The response to something that happened. -/
structure Response where
  /-- Whether a key press was meant for the window itself, or what was passed on instead. -/
  result : Except Escape Bool
  /-- The window afterwards. -/
  window : Window
  /-- What the window did. -/
  events : List Event
  /-- What was noted in the log. -/
  log : List LogRecord

/-- The layout that a window uses: a layout without entries counts as none. -/
def effectiveLayout : Option Keypad.Layout → Keypad.Layout
  | some layout => if layout.entries.isEmpty then .standard else layout
  | none => .standard

/-- The scale that a window uses: a scale of zero counts as none. -/
def effectiveScale (settings : Settings) : Option Int → Int
  | some scale => if scale = 0 then settings.scale else scale
  | none => settings.scale

/-- The caption of a window unless something else is asked for. -/
def defaultCaption : String := "CHIP-8"

/-- A new window on a system with some constants, and what it does when it opens.  It takes a
first copy of the pixels. -/
def newOn (constants : Symbol.Constants) (console : Console) (scale : Option Int)
    (caption : Option String) (layout : Option Keypad.Layout) : Window × List Event :=
  let scale := effectiveScale console.settings scale
  let (copy, display) := console.machine.display.snapshot
  let console := { console with machine := { console.machine with display := display } }
  ( ⟨console, scale, Symbol.tableOf constants (effectiveLayout layout), copy, none⟩,
    [ .opened (Display.width * scale) (Display.height * scale) caption, .prepared scale,
      .scheduled console.settings.timerHz ] )

/-- What a window does when it closes. -/
def closing : List Event := [.unscheduled, .closed]

/-- Advances by one frame, unless the program was stopped or has halted.  The fault of a program is
kept and closes the window; any other fault is passed on. -/
def frame (w : Window) : Response :=
  if w.failure.isSome || w.console.halted.isSome then ⟨.ok false, w, [], []⟩
  else
    match w.console.runFrame with
    | ⟨.error fault, console, log⟩ =>
      let w := { w with console := console }
      if fault.cause.isOfProgram then
        ⟨.ok false, { w with failure := some fault }, closing, log ++ [.windowStopped fault]⟩
      else ⟨.error (.fault fault), w, [], log⟩
    | ⟨.ok _, console, log⟩ =>
      ⟨.ok false, { w with console := console }, [],
        log ++ (console.halted.map LogRecord.windowIdle).toList⟩

/-- Passes a key event on to the keypad, if the window listens to the symbol. -/
def key (w : Window) (symbol : Int) (down : Bool) : Response :=
  match Table.get? symbol w.symbols with
  | none => ⟨.ok false, w, [], []⟩
  | some key =>
    match w.console.key (.number key) down with
    | .error e => ⟨.error (.keypad e), w, [], []⟩
    | .ok console => ⟨.ok false, { w with console := console }, [], []⟩

/-- Responds to a key that goes down; the escape key closes the window. -/
def press (w : Window) (symbol : Int) : Response :=
  if symbol = Symbol.escape then ⟨.ok true, w, closing, []⟩ else w.key symbol true

/-- The squares for the lit pixels of a copy, row by row from the top; the screen counts rows
from the bottom. -/
def squares (copy : Pixels) (scale : Int) : List Event :=
  (List.range 2048).filterMap fun k =>
    if copy[k]?.getD false then
      some (.painted ((k % Display.width : Nat) * scale)
        ((Display.height - 1 - k / Display.width : Nat) * scale))
    else none

/-- Draws the pixels, from a new copy if the display has changed. -/
def draw (w : Window) : Response :=
  let machine := w.console.machine
  let w :=
    if machine.display.dirty then
      let (copy, display) := machine.display.snapshot
      { w with
        console := { w.console with machine := { machine with display := display } }
        copy := copy }
    else w
  ⟨.ok false, w, .cleared :: squares w.copy w.scale, []⟩

/-- The response to something that happens. -/
def respond (w : Window) : Action → Response
  | .frame => w.frame
  | .press symbol => w.press symbol
  | .release symbol => w.key symbol false
  | .draw => w.draw
  | .close => ⟨.ok false, w, closing, []⟩

/-- The responses to a sequence of things that happen. -/
def responses (w : Window) : List Action → List Response
  | [] => []
  | a :: rest =>
    let response := w.respond a
    response :: response.window.responses rest

/-- The window after a sequence of things that happened. -/
def after (w : Window) (actions : List Action) : Window :=
  actions.foldl (fun w a => (w.respond a).window) w

/-- A window from its opening to the moment when it no longer waits. -/
structure Session where
  /-- What the window did when it opened. -/
  opening : List Event
  /-- Its responses to what happened then. -/
  responses : List Response
  /-- The fault that is passed on after the window, if there was one. -/
  result : Except Fault Unit

/-- Opens a window for a console, waits until it is closed, and then passes on the fault that
stopped the program. -/
def present (constants : Symbol.Constants) (console : Console) (scale : Option Int)
    (caption : Option String) (actions : List Action) : Session :=
  let (window, opening) := newOn constants console scale caption none
  let result :=
    match (window.after actions).failure with
    | some fault => .error fault
    | none => .ok ()
  ⟨opening ++ [.entered], window.responses actions, result⟩

end Window
end ChipEight
