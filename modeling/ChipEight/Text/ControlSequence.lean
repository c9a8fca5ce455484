/-
Control sequences of terminals.

A control sequence changes how a terminal shows what follows.  It starts with an escape
character and an opening bracket, goes on with parameters and then with intermediate
characters, and ends with one final character.  Text that does not go to a terminal is printed
plain, without such sequences; one that is cut short is no sequence and stays.
-/

namespace ChipEight.Text

/-- The character that starts a control sequence. -/
def escapeChar : Char := Char.ofNat 0x1B

/-- Digits, separators and the like, which may follow the bracket. -/
def isParameter (c : Char) : Bool := '0' ≤ c && c ≤ '?'

/-- Blanks and punctuation, which may follow the parameters. -/
def isIntermediate (c : Char) : Bool := ' ' ≤ c && c ≤ '/'

/-- Letters and the like, one of which ends a sequence. -/
def isFinal (c : Char) : Bool := '@' ≤ c && c ≤ '~'

/-- The length of the control sequence at the start of a text; zero if there is none. -/
def sequenceLength : List Char → Nat
  | e :: '[' :: cs =>
    let afterParameters := cs.dropWhile isParameter
    let parameters := cs.takeWhile isParameter
    let intermediates := afterParameters.takeWhile isIntermediate
    let ended := ((afterParameters.dropWhile isIntermediate).head?.map isFinal).getD false
    if e = escapeChar && ended then parameters.length + intermediates.length + 3 else 0
  | _ => 0

/-- A text without its control sequences, and without its first `skip` characters. -/
def plainFrom : Nat → List Char → List Char
  | _, [] => []
  | skip + 1, _ :: cs => plainFrom skip cs
  | 0, c :: cs =>
    match sequenceLength (c :: cs) with
    | 0 => c :: plainFrom 0 cs
    | n + 1 => plainFrom n cs

/-- A text without its control sequences. -/
def plain (s : String) : String :=
  let cs := s.toList
  if cs.contains escapeChar then String.ofList (plainFrom 0 cs) else s

end ChipEight.Text
