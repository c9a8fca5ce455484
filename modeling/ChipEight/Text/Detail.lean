/-
Details of errors.

An error that was reported from outside comes with a list of details.  A single detail is the
whole message and is shown as it is; several are enumerated in parentheses, and then texts are
quoted to keep them apart.  Errors of the operating system have a form of their own, and
those of an operation that would have had to wait say how much of it was done.
-/
import ChipEight.Position
import ChipEight.Text.Quoted

namespace ChipEight.Text

/-- Something that an error says about itself. -/
inductive Detail where
  /-- A text. -/
  | text (s : String)
  /-- An integer. -/
  | number (n : Int)
  /-- A yes or no. -/
  | truth (b : Bool)
  /-- Nothing, in a place where something could be. -/
  | nothing
  deriving DecidableEq, Repr

namespace Detail

/-- A detail in a sentence. -/
def shown : Detail → String
  | text s => s
  | number n => toString n
  | truth b => if b then "True" else "False"
  | nothing => "None"

/-- A detail in an enumeration. -/
def quoted : Detail → String
  | text s => quote s
  | d => d.shown

/-- A list of details as a message. -/
def describe : List Detail → String
  | [] => ""
  | [d] => d.shown
  | ds => "(" ++ ", ".intercalate (ds.map quoted) ++ ")"

/-- The paths at the end of the message of an operating system error: the one that the error
concerns, and the one that it should have become. -/
def pathText (path target : Detail) : String :=
  if path = nothing then ""
  else ": " ++ path.quoted ++ (if target = nothing then "" else " -> " ++ target.quoted)

/-- The number and the reason of an operating system error. -/
def systemText (code reason : Detail) : String :=
  "[Errno " ++ code.shown ++ "] " ++ reason.shown

/-- The details of an operating system error as a message: its number and its reason, and the
paths if there are any.  The fourth detail is not shown. -/
def describeSystem : List Detail → String
  | [code, reason] => systemText code reason
  | [code, reason, path] | [code, reason, path, _] =>
    systemText code reason ++ pathText path nothing
  | [code, reason, path, _, target] => systemText code reason ++ pathText path target
  | ds => describe ds

/-- A detail as an integer, if it can stand for one. -/
def number? : Detail → Option Int
  | number n => some n
  | truth b => some (if b then 1 else 0)
  | _ => none

/-- The numbers of the errors of operations that would have had to wait. -/
def waitingCodes : List Detail := [number 11, number 114, number 115]

/-- The details of an operating system error that is known by its number only.  A number in the
place of the path says how much was done by an operation that would have had to wait; it is not
shown, but has to be a position. -/
def describeByNumber (ds : List Detail) : String :=
  match ds with
  | code :: reason :: done :: rest =>
    match done.number? with
    | some n =>
      if waitingCodes.contains code && rest.length ≤ 2 then
        outsideMessage (systemText code reason) n
      else describeSystem ds
    | none => describeSystem ds
  | _ => describeSystem ds

end Detail
end ChipEight.Text
