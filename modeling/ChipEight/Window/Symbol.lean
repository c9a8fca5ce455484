/-
Key symbols: how a window names the keys of the host keyboard.

A window reports a key by a number, and a windowing system has constants for these numbers.
Constants are named in upper case, and those of the digits begin with an underscore.  A layout,
which uses the plain names of keys, is carried over entry by entry; names without a constant are
left out.
-/
import ChipEight.Keypad.Layout
import ChipEight.Text.DecimalDigit

namespace ChipEight.Symbol

/-- The symbol of the key that closes a window. -/
def escape : Int := 0xFF1B

/-- The constants of a windowing system: the symbol under each name that has one. -/
abbrev Constants := String → Option Int

/-- Whether a name consists of digits. -/
def isNumber (name : String) : Bool :=
  !name.isEmpty && name.toList.all Text.isDigit

/-- The constant that stands for the name of a key. -/
def constantName (name : String) : String :=
  if isNumber name then "_" ++ name else Text.upper name

/-- The symbol for the name of a key, given the constants. -/
def ofName? (constants : Constants) (name : String) : Option Int := constants (constantName name)

/-- The symbols of a layout with their keypad keys, given the constants; of two names with one
symbol the later one counts. -/
def tableOf (constants : Constants) (layout : Keypad.Layout) : List (Int × Int) :=
  Table.ofPairs
    (layout.entries.filterMap fun e => (ofName? constants e.1).map fun s => (s, e.2))

end ChipEight.Symbol
