/-
Layouts: which key of a host keyboard stands for which key of the keypad.

A layout lists the names of host keys in the order in which they were first given; a name
that is given again keeps its place and takes the new key.  Names are looked up in upper
case, but a layout keeps them as they were given, so an entry in lower case is never found.
Keys are plain integers here, and the keypad decides what to do with one that it lacks.
-/
import ChipEight.Table
import ChipEight.Text.UpperCase

namespace ChipEight.Keypad

/-- Names of host keys with the keypad keys that they stand for. -/
structure Layout where
  /-- The entries in order, each name once. -/
  entries : List (String × Int)
  deriving DecidableEq, Repr

namespace Layout

/-- The layout of a list of pairs; of two pairs with one name the later one counts. -/
def ofPairs (pairs : List (String × Int)) : Layout :=
  ⟨Table.ofPairs pairs⟩

/-- The key under exactly this name. -/
def get? (l : Layout) (name : String) : Option Int := Table.get? name l.entries

/-- The key that the name of a host key stands for, in whichever case it is written. -/
def keyFor (l : Layout) (name : String) : Option Int := l.get? (Text.upper name)

/-- The left block of a host keyboard, in the shape of the keypad. -/
def standard : Layout :=
  ⟨[ ("1", 0x1), ("2", 0x2), ("3", 0x3), ("4", 0xC),
     ("Q", 0x4), ("W", 0x5), ("E", 0x6), ("R", 0xD),
     ("A", 0x7), ("S", 0x8), ("D", 0x9), ("F", 0xE),
     ("Z", 0xA), ("X", 0x0), ("C", 0xB), ("V", 0xF) ]⟩

end Layout
end ChipEight.Keypad
