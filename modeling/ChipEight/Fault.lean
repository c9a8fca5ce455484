/-
What can go wrong, and how it is worded.

A `Fault` stops a program: an access outside memory or a misuse of the call stack.  It names
the instruction that was being executed, as far as that is known where the fault arises.  A
machine could also fail by a mistake of its own, such as storing a number in a register that
cannot hold it; such a fault has a cause too, but it is no fault of the program.  A `Failure`
is anything that ends a request to the machine: a fault, a program that cannot be loaded, or,
when unknown words are not tolerated, an unknown word.
-/
import ChipEight.Position
import ChipEight.Text.Hex

namespace ChipEight

/-- Why a register is refused. -/
inductive Machine.RegisterError where
  /-- There is no such register. -/
  | noSuchRegister (index : Int)
  /-- The value is no byte. -/
  | notAByte (value : Int)
  deriving DecidableEq, Repr

/-- The wording of a refusal. -/
def Machine.RegisterError.message : RegisterError → String
  | noSuchRegister index => outsideMessage "bytearray index out of range" index
  | notAByte _ => "byte must be in range(0, 256)"

/-- What stopped a program. -/
inductive Cause where
  /-- An access to a position that memory does not have. -/
  | memoryAccess (target : Int)
  /-- A call with a full stack. -/
  | stackOverflow (depth : Int)
  /-- A return with an empty stack. -/
  | stackUnderflow
  /-- Something else about the program, in words. -/
  | other (description : String)
  /-- A register that the machine itself cannot set. -/
  | register (error : Machine.RegisterError)
  /-- An operation that the machine itself does not know how to execute. -/
  | unhandled (operation : String)
  deriving DecidableEq, Repr

namespace Cause

/-- The wording for a full stack of some depth. -/
def overflowText (depth : String) : String := s!"stack overflow (depth {depth})"

/-- A cause in words. -/
def message : Cause → String
  | memoryAccess target => s!"memory access out of range ({Hex.marked 4 target})"
  | stackOverflow depth => overflowText (toString depth)
  | stackUnderflow => "stack underflow"
  | other description => description
  | register error => error.message
  | unhandled operation => "unhandled operation " ++ operation

/-- Whether the program is to blame, and not the machine itself. -/
def isOfProgram : Cause → Bool
  | memoryAccess _ | stackOverflow _ | stackUnderflow | other _ => true
  | register _ | unhandled _ => false

end Cause

/-- A cause with the instruction at which it arose. -/
structure Fault where
  /-- What went wrong. -/
  cause : Cause
  /-- The address of the instruction, if it is known. -/
  address : Option Int
  /-- The word of the instruction, if it is known. -/
  word : Option Int
  deriving DecidableEq, Repr

/-- A fault that does not say where it arose. -/
def Fault.bare (cause : Cause) : Fault := ⟨cause, none, none⟩

/-- A refused access that does not say where it arose, blamed on an instruction; every other
fault stays as it is. -/
def Fault.blamedOn (f : Fault) (address word : Int) : Fault :=
  match f with
  | ⟨.memoryAccess target, none, _⟩ => ⟨.memoryAccess target, some address, some word⟩
  | f => f

/-- A fault in words: the cause, then where it arose. -/
def Fault.message (f : Fault) : String :=
  let at? := match f.address with
    | some a => s!" at {Hex.marked 4 a}"
    | none => ""
  let word? := match f.word with
    | some w => s!" (opcode {Hex.marked 4 w})"
    | none => ""
  f.cause.message ++ at? ++ word?

/-- Why a program cannot be loaded. -/
inductive RomError where
  /-- The file cannot be read. -/
  | unreadable (path reason : String)
  /-- The program is larger than the memory for it. -/
  | tooLarge (size limit : Int)
  /-- Something else, in words. -/
  | other (description : String)
  deriving DecidableEq, Repr

/-- The wording for a program of some size that is larger than some limit. -/
def RomError.sizeText (size limit : String) : String :=
  s!"ROM is {size} bytes, but only {limit} bytes of program memory are available"

/-- A loading error in words. -/
def RomError.message : RomError → String
  | unreadable path reason => "cannot load ROM '" ++ path ++ "': " ++ reason
  | tooLarge size limit => sizeText (toString size) (toString limit)
  | other description => description

/-- Why a request to the machine failed. -/
inductive Failure where
  /-- The program cannot be loaded. -/
  | rom (error : RomError)
  /-- The program was stopped. -/
  | fault (fault : Fault)
  /-- A word that encodes no instruction was met and not tolerated. -/
  | unknownWord (word address : Int)
  /-- Something else, in words. -/
  | other (description : String)
  deriving DecidableEq, Repr

/-- A failure in words. -/
def Failure.message : Failure → String
  | rom e => e.message
  | fault f => f.message
  | unknownWord word address =>
    s!"unknown or unimplemented opcode {Hex.marked 4 word} at {Hex.marked 4 address}"
  | other description => description

end ChipEight
