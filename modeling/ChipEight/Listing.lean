/-
Listings of programs.

Every instruction takes exactly two bytes, so a listing is a straight walk over the words
of a block of bytes; an odd byte at the end belongs to no word and is left out.  A line
carries the address of its word and the word itself; its text is derived from those.
-/
import ChipEight.Instruction.Pseudocode

namespace ChipEight.Listing

/-- One line of a listing. -/
structure Line where
  /-- Where the word stands; listings may begin at any integer. -/
  address : Int
  /-- The word that is listed. -/
  word : Word
  deriving DecidableEq, Repr

namespace Line

/-- The pseudocode of the line. -/
def text (l : Line) : String := l.word.pseudocode

/-- The assembly of the line. -/
def assembly (l : Line) : String := l.word.assembly

/-- The address as the line shows it. -/
def addressText (l : Line) : String := Hex.marked 3 l.address

/-- The word as the line shows it. -/
def wordText (l : Line) : String := Hex.marked 4 l.word.toNat

/-- The line as it is printed: the pseudocode, then the word in parentheses, and in front,
if asked for, the address. -/
def format (l : Line) (withAddress : Bool) : String :=
  let body := s!"{l.text} ({l.wordText})"
  if withAddress then s!"#{l.addressText} : {body}" else body

end Line

/-- The words of a block of bytes, the high byte of each first. -/
def words : List Byte → List Word
  | high :: low :: rest => Word.ofBytes high low :: words rest
  | _ => []

/-- Lines for consecutive words from an address on. -/
def number : Int → List Word → List Line
  | _, [] => []
  | address, w :: rest => ⟨address, w⟩ :: number (address + 2) rest

/-- The lines of a block of bytes that starts at `start`; at most `count` of them, if a count
is given. -/
def disassemble (data : List Byte) (start : Int) (count : Option Int) : List Line :=
  let all := words data
  number start <| match count with
    | none => all
    | some n => all.take n.toNat

/-- The printed lines of a block of bytes. -/
def lines (data : List Byte) (withAddress : Bool) (start : Int) (count : Option Int) :
    List String :=
  (disassemble data start count).map (·.format withAddress)

/-- The printed lines as one text, without a line end after the last. -/
def text (data : List Byte) (withAddress : Bool) (start : Int) (count : Option Int) : String :=
  "\n".intercalate (lines data withAddress start count)

end ChipEight.Listing
