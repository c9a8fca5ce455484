/-
Hexadecimal text.

Every address, word and byte that is shown to a reader goes through this module, so
the few conventions are stated once.  Digits are upper case in listings and messages
and lower case in memory dumps.  A number is padded with zeros to a least width and
never cut; the sign of a negative number is one character of that width.
-/

namespace ChipEight.Hex

/-- The digit with value `n`, upper case; meant for `n < 16`. -/
def digit (n : Nat) : Char :=
  if n < 10 then Char.ofNat (48 + n) else Char.ofNat (55 + n)

/-- The digits of `n` in base sixteen, most significant first and without leading zeros. -/
def digits (n : Nat) : List Char :=
  if n < 16 then [digit n] else digits (n / 16) ++ [digit (n % 16)]

/-- `cs` with zeros in front, up to the least width `width`. -/
def pad (width : Nat) (cs : List Char) : List Char :=
  List.replicate (width - cs.length) '0' ++ cs

/-- The characters of an integer of least width `width`; a minus sign counts towards it. -/
def fieldChars (width : Nat) (n : Int) : List Char :=
  if n < 0 then '-' :: pad (width - 1) (digits n.natAbs) else pad width (digits n.natAbs)

/-- An integer of least width `width`; a minus sign counts towards it. -/
def field (width : Nat) (n : Int) : String :=
  String.ofList (fieldChars width n)

/-- A field of least width `width` after the marker `0x`. -/
def marked (width : Nat) (n : Int) : String :=
  "0x" ++ field width n

/-- The two lower-case digits of a byte, as memory dumps show it. -/
def lowerByte (b : BitVec 8) : String :=
  (field 2 b.toNat).map Char.toLower

end ChipEight.Hex
