/-
Positions in a row that may count from the end.

A row of `size` entries is addressed by integers: 0 is the first entry, and -1 the last.
An integer that does not fit in 64 bits is no position at all, which is worded differently.
-/

namespace ChipEight

/-- The entry that an integer addresses, if there is one. -/
def position? (size : Nat) (index : Int) : Option (Fin size) :=
  if h : 0 ≤ index ∧ index < size then some ⟨index.toNat, by omega⟩
  else if h : -size ≤ index ∧ index < 0 then some ⟨(index + size).toNat, by omega⟩
  else none

/-- Whether an integer can be a position in some row. -/
def isPosition (index : Int) : Bool :=
  -0x8000000000000000 ≤ index && index < 0x8000000000000000

/-- The wording for a position that a row lacks, given the wording for a row of its kind. -/
def outsideMessage (wording : String) (index : Int) : String :=
  if isPosition index then wording else "cannot fit 'int' into an index-sized integer"

end ChipEight
