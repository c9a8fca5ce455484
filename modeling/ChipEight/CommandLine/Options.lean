/-
Options on a command line.

An argument that begins with a dash and is longer than one character is an option.  A long
name is matched as a whole and may carry its value after an equals sign.  One-letter names
may be run together after one dash; the first of them that takes a value takes the rest of
the argument, or the next argument if nothing is left.  The next argument is taken whatever
it looks like.  Two dashes on their own end the options.  Where options and other arguments
may not be mixed, the first other argument ends them too.
-/
import ChipEight.Files

namespace ChipEight.CommandLine

/-- An option that a command understands; `κ` is the type of what it means. -/
structure Switch (κ : Type) where
  /-- What the option means. -/
  meaning : κ
  /-- Its names, with their dashes. -/
  names : List String
  /-- Whether it takes a value. -/
  takesValue : Bool

/-- Why a command line is refused. -/
inductive Problem where
  /-- There is no such option. -/
  | unknownOption (name : String)
  /-- The value of an option is missing. -/
  | valueMissing (name : String)
  /-- An option that takes no value was given one. -/
  | valueUnwanted (name : String)
  /-- There is no command. -/
  | commandMissing
  /-- There is no such command. -/
  | unknownCommand (name : String)
  /-- An argument is missing. -/
  | argumentMissing (name : String)
  /-- There are more arguments than the command takes. -/
  | surplusArgument (text : String)
  /-- A value is no integer of the allowed range. -/
  | badInteger (name text : String)
  /-- A path does not lead to what is needed. -/
  | badPath (name text : String)
  /-- A path holds a character that no path can have. -/
  | unusablePath (text : String)
  deriving DecidableEq, Repr

namespace Problem

/-- Whether the summary of the command is shown with the problem. -/
def showsUsage : Problem → Bool
  | valueMissing _ | valueUnwanted _ | unusablePath _ => false
  | _ => true

/-- A problem in words. -/
def message : Problem → String
  | unknownOption name => "No such option: " ++ name
  | valueMissing name => "Option '" ++ name ++ "' requires an argument."
  | valueUnwanted name => "Option '" ++ name ++ "' does not take a value."
  | commandMissing => "Missing command."
  | unknownCommand name => "No such command '" ++ name ++ "'."
  | argumentMissing name => "Missing argument '" ++ name ++ "'."
  | surplusArgument text => "Got unexpected extra argument (" ++ text ++ ")"
  | badInteger name text => "Invalid value for '" ++ name ++ "': '" ++ text ++ "'."
  | badPath name text => "Invalid value for '" ++ name ++ "': path '" ++ text ++ "'."
  | unusablePath _ => Files.unusableMessage

end Problem

/-- Options that were given, in order, each with its value if it takes one. -/
abbrev Given (κ : Type) := List (κ × Option String)

/-- What one argument says. -/
inductive Reading (κ : Type) where
  /-- Some options, all complete. -/
  | complete (options : Given κ)
  /-- Some options, and one more whose value is the next argument. -/
  | pending (options : Given κ) (name : String) (meaning : κ)

/-- A reading with one more option in front. -/
def Reading.cons {κ : Type} (o : κ × Option String) : Reading κ → Reading κ
  | complete options => .complete (o :: options)
  | pending options name meaning => .pending (o :: options) name meaning

section Reading

variable {κ : Type}

/-- The option with a name. -/
def find? (switches : List (Switch κ)) (name : String) : Option (Switch κ) :=
  switches.find? (·.names.contains name)

/-- Whether a name is one dash and one letter. -/
def isShort (name : String) : Bool := name.length = 2 && !name.startsWith "--"

/-- An argument before its first equals sign, and the text after it. -/
def splitValue (arg : String) : String × Option String :=
  let cs := arg.toList
  match cs.dropWhile (· ≠ '=') with
  | [] => (arg, none)
  | _ :: value => (String.ofList (cs.takeWhile (· ≠ '=')), some (String.ofList value))

/-- Reads an argument as a long option; none if there is no such option. -/
def readLong (switches : List (Switch κ)) (arg : String) : Option (Except Problem (Reading κ)) :=
  let (name, value?) := splitValue arg
  if isShort name then none
  else (find? switches name).map fun s =>
    match s.takesValue, value? with
    | true, some value => .ok (.complete [(s.meaning, some value)])
    | true, none => .ok (.pending [] name s.meaning)
    | false, some _ => .error (.valueUnwanted name)
    | false, none => .ok (.complete [(s.meaning, none)])

/-- Reads letters as one-letter options. -/
def readLetters (switches : List (Switch κ)) : List Char → Except Problem (Reading κ)
  | [] => .ok (.complete [])
  | c :: rest =>
    let name := String.ofList ['-', c]
    match find? switches name with
    | none => .error (.unknownOption name)
    | some s =>
      if s.takesValue then
        if rest.isEmpty then .ok (.pending [] name s.meaning)
        else .ok (.complete [(s.meaning, some (String.ofList rest))])
      else (readLetters switches rest).map (Reading.cons (s.meaning, none))

/-- Reads an argument that begins with a dash. -/
def readOption (switches : List (Switch κ)) (arg : String) : Except Problem (Reading κ) :=
  match readLong switches arg with
  | some reading => reading
  | none =>
    if arg.startsWith "--" then .error (.unknownOption arg)
    else readLetters switches (arg.toList.drop 1)

/-- Whether an argument is an option. -/
def isOption (arg : String) : Bool := arg.startsWith "-" && 1 < arg.length

/-- The options of a command line, and its other arguments.  Unless they may be mixed, the
first other argument and all after it are other arguments. -/
def scan (switches : List (Switch κ)) (mixed : Bool) :
    List String → Except Problem (Given κ × List String)
  | [] => .ok ([], [])
  | arg :: rest =>
    if arg = "--" then .ok ([], rest)
    else if isOption arg then
      match readOption switches arg with
      | .error p => .error p
      | .ok (.complete options) =>
        (scan switches mixed rest).map fun (given, others) => (options ++ given, others)
      | .ok (.pending options name meaning) =>
        match rest with
        | [] => .error (.valueMissing name)
        | value :: rest =>
          (scan switches mixed rest).map fun (given, others) =>
            (options ++ (meaning, some value) :: given, others)
    else if mixed then (scan switches mixed rest).map fun (given, others) => (given, arg :: others)
    else .ok ([], arg :: rest)

end Reading
end ChipEight.CommandLine
