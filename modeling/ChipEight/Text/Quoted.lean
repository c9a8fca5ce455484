/-
Quoted text.

A text that a message repeats back to its author is put in quotes.  Single quotes are used
unless the text holds a single quote and no double quote.  A backslash and the quote in use
are escaped, and so is every character that cannot be shown as it is, by the shortest of the
escapes with two, four or eight hexadecimal digits.
-/
import ChipEight.Text.Hex
import ChipEight.Text.Printable

namespace ChipEight.Text

/-- The escape of a character without a visible form. -/
private def escape (c : Char) : List Char :=
  let n := c.toNat
  let digits := (Hex.digits n).map Char.toLower
  if n < 0x100 then '\\' :: 'x' :: Hex.pad 2 digits
  else if n < 0x10000 then '\\' :: 'u' :: Hex.pad 4 digits
  else '\\' :: 'U' :: Hex.pad 8 digits

/-- A character inside quotes of the kind `mark`. -/
private def quoteChar (mark c : Char) : List Char :=
  if c = mark || c = '\\' then ['\\', c]
  else if c = '\t' then ['\\', 't']
  else if c = '\n' then ['\\', 'n']
  else if c = '\r' then ['\\', 'r']
  else if isPrintable c then [c]
  else escape c

/-- The quote that surrounds a text. -/
def quoteMark (cs : List Char) : Char :=
  if cs.contains '\'' && !cs.contains '"' then '"' else '\''

/-- A text in quotes. -/
def quote (s : String) : String :=
  let cs := s.toList
  let mark := quoteMark cs
  String.ofList (mark :: cs.flatMap (quoteChar mark) ++ [mark])

end ChipEight.Text
