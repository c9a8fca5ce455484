/-
The instructions of the machine.

Thirty-four instructions are documented; each constructor carries the operands that its
encoding leaves open.  Registers are written `x` and `y`, literal bytes `nn`, addresses
`nnn` and the height of a sprite `n`, as in the published tables.
-/
import ChipEight.Word

namespace ChipEight

/-- A documented instruction with its operands. -/
inductive Instruction where
  /-- Turns every pixel off. -/
  | clearScreen
  /-- Returns from a subroutine. -/
  | ret
  /-- Continues at `nnn`. -/
  | jump (nnn : Address)
  /-- Calls the subroutine at `nnn`. -/
  | call (nnn : Address)
  /-- Skips the next instruction if `Vx` is `nn`. -/
  | skipIfByte (x : Register) (nn : Byte)
  /-- Skips the next instruction unless `Vx` is `nn`. -/
  | skipUnlessByte (x : Register) (nn : Byte)
  /-- Skips the next instruction if `Vx` and `Vy` agree. -/
  | skipIfSame (x y : Register)
  /-- Stores `nn` in `Vx`. -/
  | loadByte (x : Register) (nn : Byte)
  /-- Adds `nn` to `Vx`; no flag is written. -/
  | addByte (x : Register) (nn : Byte)
  /-- Copies `Vy` to `Vx`. -/
  | copy (x y : Register)
  /-- Bitwise or of `Vx` and `Vy`, into `Vx`. -/
  | bitOr (x y : Register)
  /-- Bitwise and of `Vx` and `Vy`, into `Vx`. -/
  | bitAnd (x y : Register)
  /-- Bitwise exclusive or of `Vx` and `Vy`, into `Vx`. -/
  | bitXor (x y : Register)
  /-- Adds `Vy` to `Vx`; the flag is the carry. -/
  | add (x y : Register)
  /-- Subtracts `Vy` from `Vx`; the flag says that `Vx` was greater. -/
  | sub (x y : Register)
  /-- Shifts `Vx` right; the flag is the bit that falls out. -/
  | shiftRight (x y : Register)
  /-- Stores `Vy - Vx` in `Vx`; the flag says that `Vy` was greater. -/
  | subFrom (x y : Register)
  /-- Shifts `Vx` left; the flag is the bit that falls out. -/
  | shiftLeft (x y : Register)
  /-- Skips the next instruction unless `Vx` and `Vy` agree. -/
  | skipUnlessSame (x y : Register)
  /-- Stores `nnn` in the index register. -/
  | loadIndex (nnn : Address)
  /-- Continues at `nnn` plus `V0`. -/
  | jumpFrom (nnn : Address)
  /-- Stores a random byte, masked with `nn`, in `Vx`. -/
  | random (x : Register) (nn : Byte)
  /-- Draws the `n` rows at the index register at column `Vx` and row `Vy`. -/
  | draw (x y : Register) (n : Nibble)
  /-- Skips the next instruction if the key in `Vx` is down. -/
  | skipIfKey (x : Register)
  /-- Skips the next instruction unless the key in `Vx` is down. -/
  | skipUnlessKey (x : Register)
  /-- Copies the delay timer to `Vx`. -/
  | readDelay (x : Register)
  /-- Waits for a key and stores it in `Vx`. -/
  | awaitKey (x : Register)
  /-- Copies `Vx` to the delay timer. -/
  | setDelay (x : Register)
  /-- Copies `Vx` to the sound timer. -/
  | setSound (x : Register)
  /-- Adds `Vx` to the index register. -/
  | addIndex (x : Register)
  /-- Points the index register at the glyph of the low digit of `Vx`. -/
  | pointAtGlyph (x : Register)
  /-- Stores the three decimal digits of `Vx` at the index register. -/
  | storeDecimal (x : Register)
  /-- Stores `V0` to `Vx` at the index register and moves it past them. -/
  | storeRegisters (x : Register)
  /-- Loads `V0` to `Vx` from the index register and moves it past them. -/
  | loadRegisters (x : Register)
  deriving DecidableEq, Repr, Inhabited

end ChipEight
