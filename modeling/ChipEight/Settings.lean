/-
Settings.

A setting that counts something is at least one.  Settings come in layers: the defaults, then
the environment, then whatever a caller changes.  Every layer is checked as it is applied, so
that a wrong value is reported even where a later layer would have replaced it.
-/
import ChipEight.Text.Numeral

namespace ChipEight

/-- How the machine behaves and how it is presented. -/
structure Settings where
  /-- Whether a shift stores its result in the second register too. -/
  shiftsBoth : Bool := true
  /-- How many return addresses the stack may hold. -/
  stackDepth : Nat := 16
  /-- How many instructions are executed for each frame. -/
  cyclesPerFrame : Nat := 10
  /-- How many frames there are in a second. -/
  timerHz : Nat := 60
  /-- The side of a pixel in a window. -/
  scale : Nat := 10
  /-- The seed of the random bytes, if they are to be the same every time. -/
  seed : Option Int := none
  stackDepth_pos : 0 < stackDepth := by decide
  cyclesPerFrame_pos : 0 < cyclesPerFrame := by decide
  timerHz_pos : 0 < timerHz := by decide
  scale_pos : 0 < scale := by decide
  deriving DecidableEq

namespace Settings

/-- A setting that counts something. -/
inductive Counter where
  | stackDepth
  | cyclesPerFrame
  | timerHz
  | scale
  deriving DecidableEq, Repr

/-- The name of a counter in messages. -/
def Counter.name : Counter → String
  | stackDepth => "stack_depth"
  | cyclesPerFrame => "cycles_per_frame"
  | timerHz => "timer_hz"
  | scale => "scale"

/-- Why settings are refused. -/
inductive Error where
  /-- A counter is below one. -/
  | belowOne (counter : Counter) (got : Int)
  /-- A variable of the environment holds no integer. -/
  | notAnInteger (error : Numeral.Error)
  deriving DecidableEq, Repr

/-- The wording of a refusal. -/
def Error.message : Error → String
  | belowOne counter got => s!"{counter.name} must be >= 1, got {got}"
  | notAnInteger e => e.message

/-- New values for some of the settings. -/
structure Changes where
  shiftsBoth : Option Bool := none
  stackDepth : Option Int := none
  cyclesPerFrame : Option Int := none
  timerHz : Option Int := none
  scale : Option Int := none
  seed : Option Int := none
  deriving DecidableEq, Repr

/-- Whether there is nothing to change. -/
def Changes.isEmpty (c : Changes) : Bool :=
  c.shiftsBoth.isNone && c.stackDepth.isNone && c.cyclesPerFrame.isNone && c.timerHz.isNone &&
    c.scale.isNone && c.seed.isNone

/-- The settings with some values changed.  Counters are checked in the order in which they
are declared. -/
def change (s : Settings) (c : Changes) : Except Error Settings :=
  let stackDepth := c.stackDepth.getD s.stackDepth
  let cyclesPerFrame := c.cyclesPerFrame.getD s.cyclesPerFrame
  let timerHz := c.timerHz.getD s.timerHz
  let scale := c.scale.getD s.scale
  if h₁ : stackDepth < 1 then .error (.belowOne .stackDepth stackDepth)
  else if h₂ : cyclesPerFrame < 1 then .error (.belowOne .cyclesPerFrame cyclesPerFrame)
  else if h₃ : timerHz < 1 then .error (.belowOne .timerHz timerHz)
  else if h₄ : scale < 1 then .error (.belowOne .scale scale)
  else .ok
    { shiftsBoth := c.shiftsBoth.getD s.shiftsBoth
      stackDepth := stackDepth.toNat
      cyclesPerFrame := cyclesPerFrame.toNat
      timerHz := timerHz.toNat
      scale := scale.toNat
      seed := c.seed.or s.seed
      stackDepth_pos := by omega
      cyclesPerFrame_pos := by omega
      timerHz_pos := by omega
      scale_pos := by omega }

/-- The variables of the environment. -/
abbrev Environment := String → Option String

/-- The text of a variable; an empty text counts as not set. -/
def textOf? (env : Environment) (name : String) : Option String :=
  (env name).filter (!·.isEmpty)

/-- Whether a text switches something off: zero or one of three words, in either case. -/
def isOff (text : String) : Bool :=
  let word := String.ofList ((Text.trim Text.isBlank text.toList).map Char.toLower)
  word ∈ ["0", "false", "no", "off"]

/-- The settings with a variable applied as an integer, if it is set. -/
def changeInt (s : Settings) (env : Environment) (name : String) (set : Int → Changes) :
    Except Error Settings :=
  match textOf? env name with
  | none => .ok s
  | some text =>
    match Numeral.read .ten text with
    | .error e => .error (.notAnInteger e)
    | .ok n => s.change (set n)

/-- The settings with the switch for shifts applied, if it is set. -/
def changeShifts (s : Settings) (env : Environment) : Settings :=
  match textOf? env "CHIP8_SHIFT_QUIRK" with
  | none => s
  | some text => { s with shiftsBoth := !isOff text }

/-- The defaults with the environment applied, one variable after the other. -/
def ofEnvironment (env : Environment) : Except Error Settings := do
  let s := changeShifts {} env
  let s ← s.changeInt env "CHIP8_SEED" fun n => { seed := some n }
  let s ← s.changeInt env "CHIP8_CYCLES_PER_FRAME" fun n => { cyclesPerFrame := some n }
  s.changeInt env "CHIP8_SCALE" fun n => { scale := some n }

end Settings
end ChipEight
