/-
Numerals: integers as people write them.

A numeral may be padded with blanks and begin with one sign.  Single underscores may stand
between digits, leading zeros are allowed, and the decimal digits of every script count.  In
base sixteen the letters A to F in either case are digits too, and a marker `0x` may precede
the digits, itself followed by at most one underscore.  A decimal numeral has at most 4300
digits; more of them are refused even where the text goes wrong only after them.
-/
import ChipEight.Text.Blank
import ChipEight.Text.DecimalDigit
import ChipEight.Text.Quoted

namespace ChipEight.Numeral

open Text

/-- The bases in which numerals are read. -/
inductive Base where
  | ten
  | sixteen
  deriving DecidableEq, Repr

/-- The base as a number. -/
def Base.toNat : Base → Nat
  | ten => 10
  | sixteen => 16

/-- Why a text is not read as an integer. -/
inductive Error where
  /-- The text is no numeral of the base. -/
  | malformed (base : Base) (text : String)
  /-- The numeral has too many decimal digits. -/
  | tooLong (digits : Nat)
  deriving DecidableEq, Repr

/-- The greatest number of digits of a decimal numeral. -/
def maxDecimalDigits : Nat := 4300

/-- The wording of an error; a refused text is quoted and cut at two hundred characters. -/
def Error.message : Error → String
  | malformed base text =>
    "invalid literal for int() with base " ++ toString base.toNat ++ ": " ++
      String.ofList ((quote text).toList.take 200)
  | tooLong digits =>
    "Exceeds the limit (" ++ toString maxDecimalDigits ++
      " digits) for integer string conversion: value has " ++ toString digits ++
      " digits; use sys.set_int_max_str_digits() to increase the limit"

/-- The value of a letter from A to F. -/
def letterValue? (c : Char) : Option Nat :=
  if 'a' ≤ c ∧ c ≤ 'f' then some (c.toNat - 87)
  else if 'A' ≤ c ∧ c ≤ 'F' then some (c.toNat - 55)
  else none

/-- The value of a character as a digit of the base. -/
def digitValue? (base : Base) (c : Char) : Option Nat :=
  match base with
  | .ten => decimalValue? c
  | .sixteen => (decimalValue? c).or (letterValue? c)

/-- The values of one or more digits with single underscores between them. -/
def digits? (base : Base) : List Char → Option (List Nat)
  | [] => none
  | [c] => (digitValue? base c).map ([·])
  | c :: '_' :: rest => do return (← digitValue? base c) :: (← digits? base rest)
  | c :: rest => do return (← digitValue? base c) :: (← digits? base rest)

/-- The characters after a marker for base sixteen, or all of them if there is none. -/
def dropMarker : List Char → List Char
  | z :: m :: rest =>
    if decimalValue? z = some 0 ∧ (m = 'x' ∨ m = 'X') then
      match rest with
      | '_' :: rest => rest
      | rest => rest
    else z :: m :: rest
  | cs => cs

/-- The number with the given digits, most significant first. -/
def ofDigits (base : Base) (ds : List Nat) : Nat :=
  ds.foldl (fun value d => value * base.toNat + d) 0

/-- Whether a character may stand in the body of a numeral: a digit or an underscore. -/
def isBody (base : Base) (c : Char) : Bool := (digitValue? base c).isSome || c == '_'

/-- An unsigned numeral at the start of a text: its digits, and the text that follows. -/
def leading? (base : Base) (cs : List Char) : Option (List Nat × List Char) :=
  let cs := if base = .sixteen then dropMarker cs else cs
  (digits? base (cs.takeWhile (isBody base))).map (·, cs.dropWhile (isBody base))

/-- The sign of a numeral, negative if true, and what follows it. -/
def splitSign : List Char → Bool × List Char
  | '-' :: cs => (true, cs)
  | '+' :: cs => (false, cs)
  | cs => (false, cs)

/-- The integer that a text denotes. -/
def read (base : Base) (text : String) : Except Error Int :=
  let (negative, body) := splitSign (trim isPadding text.toList)
  match leading? base body with
  | none => .error (.malformed base text)
  | some (ds, rest) =>
    if base = .ten ∧ maxDecimalDigits < ds.length then .error (.tooLong ds.length)
    else if !rest.isEmpty then .error (.malformed base text)
    else
      let value : Int := ofDigits base ds
      .ok (if negative then -value else value)

end ChipEight.Numeral
