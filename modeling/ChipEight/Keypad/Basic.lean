/-
The keypad.

Sixteen keys are labelled with the hexadecimal digits.  A key is addressed by its number or
through the name of a host key and a layout.  A number outside 0 to 15 is refused; a name
that the layout does not know is ignored, so that a host may pass on every key it sees.  The
key of a layout may also count from the end, with -1 for key F.
-/
import ChipEight.Word
import ChipEight.Position
import ChipEight.Keypad.Layout

namespace ChipEight

/-- Which keys are down. -/
structure Keypad where
  /-- One entry for each key, true while it is down. -/
  pressed : Vector Bool 16
  deriving DecidableEq

namespace Keypad

/-- How a key is named. -/
inductive Key where
  /-- By its number. -/
  | number (n : Int)
  /-- By the name of a host key. -/
  | named (name : String)
  deriving DecidableEq, Repr

/-- Why a key is refused. -/
inductive Error where
  /-- The number is no key of the keypad. -/
  | noSuchKey (n : Int)
  /-- The layout sends the name to a key that the keypad lacks. -/
  | layoutOutside (key : Int)
  /-- A state for the whole keypad does not have sixteen entries. -/
  | wrongCount (count : Nat)
  deriving DecidableEq, Repr

/-- The wording of a refusal. -/
def Error.message : Error → String
  | noSuchKey n => s!"Keypad key must be 0-15, got {n}"
  | layoutOutside key => outsideMessage "list assignment index out of range" key
  | wrongCount count => s!"Expected 16 key states, got {count}"

/-- No key is down. -/
def released : Keypad := ⟨Vector.replicate 16 false⟩

/-- The keypad with every key released. -/
def clear (k : Keypad) : Keypad := { k with pressed := Vector.replicate 16 false }

/-- The keypad with one key set. -/
def setKey (k : Keypad) (key : Fin 16) (down : Bool) : Keypad := ⟨k.pressed.set key down⟩

/-- The position that a key stands for under a layout; none for an unknown name. -/
def resolve (layout : Layout) : Key → Except Error (Option (Fin 16))
  | .number n =>
    if h : 0 ≤ n ∧ n < 16 then .ok (some ⟨n.toNat, by omega⟩) else .error (.noSuchKey n)
  | .named name =>
    match layout.keyFor name with
    | none => .ok none
    | some key =>
      match position? 16 key with
      | some p => .ok (some p)
      | none => .error (.layoutOutside key)

/-- The keypad after an event of one key. -/
def change (layout : Layout) (k : Keypad) (key : Key) (down : Bool) : Except Error Keypad :=
  (resolve layout key).map fun
    | some p => k.setKey p down
    | none => k

/-- The keypad with a key pressed. -/
def press (layout : Layout) (k : Keypad) (key : Key) : Except Error Keypad :=
  k.change layout key true

/-- The keypad with a key released. -/
def release (layout : Layout) (k : Keypad) (key : Key) : Except Error Keypad :=
  k.change layout key false

/-- Whether a key is down. -/
def isPressed (k : Keypad) (key : Nibble) : Bool :=
  have : key.toNat < 16 := key.isLt
  k.pressed[key.toNat]

@[simp] theorem isPressed_setKey (k : Keypad) (p : Fin 16) (down : Bool) (key : Nibble) :
    (k.setKey p down).isPressed key = if p.val = key.toNat then down else k.isPressed key := by
  simp only [isPressed, setKey, Vector.getElem_set]

/-- The key that an integer selects: its low four bits. -/
def lowKey (n : Int) : Nibble := BitVec.ofInt 4 n

/-- The keys that are down, in ascending order. -/
def pressedKeys (k : Keypad) : List Nibble :=
  (List.range 16).filterMap fun n =>
    if k.isPressed (BitVec.ofNat 4 n) then some (BitVec.ofNat 4 n) else none

/-- The lowest key that is down. -/
def firstPressed (k : Keypad) : Option Nibble := k.pressedKeys.head?

/-- The keypad with the state of every key given. -/
def ofStates (states : List Bool) : Except Error Keypad :=
  if h : states.toArray.size = 16 then .ok ⟨⟨states.toArray, h⟩⟩
  else .error (.wrongCount states.length)

end Keypad
end ChipEight
