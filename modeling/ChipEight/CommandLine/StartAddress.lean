/-
Addresses on the command line.

An address is hexadecimal after `0x` or a dollar sign, and decimal otherwise.  The marker is
looked for at the very start of the text, before any blank or sign.
-/
import ChipEight.Text.Numeral

namespace ChipEight.CommandLine

/-- The address that a text denotes. -/
def parseAddress (text : String) : Option Int :=
  match text.toList with
  | '$' :: rest => (Numeral.read .sixteen (String.ofList rest)).toOption
  | '0' :: 'x' :: _ | '0' :: 'X' :: _ => (Numeral.read .sixteen text).toOption
  | _ => (Numeral.read .ten text).toOption

/-- The wording for a text that denotes no address. -/
def invalidAddress (text : String) : String := "Invalid address '" ++ text ++ "'"

end ChipEight.CommandLine
