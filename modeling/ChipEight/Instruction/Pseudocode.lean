/-
Instructions as pseudocode.

The listing that a reader sees describes each instruction by its effect rather than by its
mnemonic.  Words without an instruction are all described alike; the listing shows the word
itself beside the description, so nothing is lost.
-/
import ChipEight.Instruction.Operation

namespace ChipEight

open Operand (registerName)

/-- A literal byte, as pseudocode writes it. -/
private def literalByte (nn : Byte) : String := Hex.marked 2 nn.toNat

/-- An address, as pseudocode writes it. -/
private def literalAddress (nnn : Address) : String := Hex.marked 3 nnn.toNat

/-- The effect of an instruction, in one line. -/
def Instruction.pseudocode : Instruction → String
  | clearScreen => "Clear Screen"
  | ret => "Return"
  | jump nnn => "Jump to " ++ literalAddress nnn
  | call nnn => "Call at " ++ literalAddress nnn
  | skipIfByte x nn => s!"if({registerName x} == {literalByte nn}), skip next instr."
  | skipUnlessByte x nn => s!"if({registerName x} != {literalByte nn}), skip next instr."
  | skipIfSame x y => s!"if({registerName x} == {registerName y}), skip next instr."
  | loadByte x nn => s!"{registerName x} = {literalByte nn}"
  | addByte x nn => s!"{registerName x} = {registerName x} + {literalByte nn}"
  | copy x y => s!"{registerName x} = {registerName y}"
  | bitOr x y => s!"{registerName x} OR {registerName y} (bitwise op)"
  | bitAnd x y => s!"{registerName x} AND {registerName y} (bitwise op)"
  | bitXor x y => s!"{registerName x} XOR {registerName y}"
  | add x y => s!"{registerName x} += {registerName y}"
  | sub x y => s!"{registerName x} -= {registerName y}"
  | shiftRight x y => s!"{registerName x} = {registerName y} = {registerName x} >> 1"
  | subFrom x y => s!"{registerName x} = {registerName y} - {registerName x}"
  | shiftLeft x y => s!"{registerName x} = {registerName y} = {registerName x} << 1"
  | skipUnlessSame x y => s!"if({registerName x} != {registerName y}), skip next instr."
  | loadIndex nnn => "I = " ++ literalAddress nnn
  | jumpFrom nnn => "PC = V0 + " ++ literalAddress nnn
  | random x nn => s!"{registerName x} = rand() AND {literalByte nn} (bitwise op)"
  | draw x y n => s!"Draw at ({registerName x}, {registerName y}) with height {Hex.field 1 n.toNat}"
  | skipIfKey x => s!"if(key() == {registerName x}), skip next instr."
  | skipUnlessKey x => s!"if(key() != {registerName x}), skip next instr."
  | readDelay x => s!"{registerName x} = get_delay()"
  | awaitKey x => s!"{registerName x} = get_key() (blocking operation)"
  | setDelay x => "Delay timer = " ++ registerName x
  | setSound x => "Sound timer = " ++ registerName x
  | addIndex x => "I += " ++ registerName x
  | pointAtGlyph x => s!"I = sprite_addr({registerName x})"
  | storeDecimal x => s!"set_BCD({registerName x})"
  | storeRegisters x => s!"reg_dump({registerName x}, &I)"
  | loadRegisters x => s!"reg_load({registerName x}, &I)"

/-- The description of every word that encodes no instruction. -/
def unknownPseudocode : String := "unknown instruction"

/-- The description of a word. -/
def Word.pseudocode (w : Word) : String :=
  match Instruction.decode w with
  | some i => i.pseudocode
  | none => unknownPseudocode

end ChipEight
