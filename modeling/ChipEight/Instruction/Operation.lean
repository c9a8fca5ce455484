/-
Operations: the kinds of instruction, and how each is written in assembly.

There is one operation for each documented instruction and one more, `unknown`, for the
words that no instruction has.  A single table gives each operation its name, its mnemonic
and its operands; the assembly text of a word and the description of the operand formats
are both read off that table.
-/
import ChipEight.Instruction.Encoding
import ChipEight.Text.Hex

namespace ChipEight

/-- The kind of a word: its instruction without the operands. -/
inductive Operation where
  | clearScreen | ret | jump | call | skipIfByte | skipUnlessByte
  | skipIfSame | loadByte | addByte | copy | bitOr | bitAnd
  | bitXor | add | sub | shiftRight | subFrom | shiftLeft
  | skipUnlessSame | loadIndex | jumpFrom | random | draw | skipIfKey
  | skipUnlessKey | readDelay | awaitKey | setDelay | setSound | addIndex
  | pointAtGlyph | storeDecimal | storeRegisters | loadRegisters | unknown
  deriving DecidableEq, Repr, Inhabited

/-- One operand of an assembly line. -/
inductive Operand where
  /-- The register named by the second nibble. -/
  | x
  /-- The register named by the third nibble. -/
  | y
  /-- The low byte, in hexadecimal. -/
  | byte
  /-- The low twelve bits, in hexadecimal. -/
  | address
  /-- The last nibble, in decimal. -/
  | height
  /-- The whole word, in hexadecimal. -/
  | word
  /-- A text that is the same in every line of the operation. -/
  | fixed (text : String)
  deriving DecidableEq, Repr, Inhabited

namespace Operand

/-- The name of a register, as every listing writes it. -/
def registerName (r : Register) : String := "V" ++ Hex.field 1 r.toNat

/-- The operand as it stands in the assembly line of `w`. -/
def text (w : Word) : Operand → String
  | x => registerName w.x
  | y => registerName w.y
  | byte => Hex.marked 2 w.nn.toNat
  | address => Hex.marked 3 w.nnn.toNat
  | height => toString w.n.toNat
  | word => Hex.marked 4 w.toNat
  | fixed s => s

/-- The format of the operand: the field of the word in braces, with base and width. -/
def template : Operand → String
  | x => "V\x7bx:X\x7d"
  | y => "V\x7by:X\x7d"
  | byte => "0x\x7bnn:02X\x7d"
  | address => "0x\x7bnnn:03X\x7d"
  | height => "\x7bn\x7d"
  | word => "0x\x7bopcode:04X\x7d"
  | fixed s => s

end Operand

namespace Operation

/-- The operations in the order of their numbers, which count from one. -/
def all : List Operation :=
  [ .clearScreen, .ret, .jump, .call, .skipIfByte, .skipUnlessByte,
    .skipIfSame, .loadByte, .addByte, .copy, .bitOr, .bitAnd,
    .bitXor, .add, .sub, .shiftRight, .subFrom, .shiftLeft,
    .skipUnlessSame, .loadIndex, .jumpFrom, .random, .draw, .skipIfKey,
    .skipUnlessKey, .readDelay, .awaitKey, .setDelay, .setSound, .addIndex,
    .pointAtGlyph, .storeDecimal, .storeRegisters, .loadRegisters, .unknown ]

/-- What the assembly table says of an operation. -/
structure Entry where
  name : String
  mnemonic : String
  operands : List Operand

/-- The assembly table. -/
def entry : Operation → Entry
  | clearScreen => ⟨"CLS", "CLS", []⟩
  | ret => ⟨"RET", "RET", []⟩
  | jump => ⟨"JP", "JP", [.address]⟩
  | call => ⟨"CALL", "CALL", [.address]⟩
  | skipIfByte => ⟨"SE_BYTE", "SE", [.x, .byte]⟩
  | skipUnlessByte => ⟨"SNE_BYTE", "SNE", [.x, .byte]⟩
  | skipIfSame => ⟨"SE_REG", "SE", [.x, .y]⟩
  | loadByte => ⟨"LD_BYTE", "LD", [.x, .byte]⟩
  | addByte => ⟨"ADD_BYTE", "ADD", [.x, .byte]⟩
  | copy => ⟨"LD_REG", "LD", [.x, .y]⟩
  | bitOr => ⟨"OR", "OR", [.x, .y]⟩
  | bitAnd => ⟨"AND", "AND", [.x, .y]⟩
  | bitXor => ⟨"XOR", "XOR", [.x, .y]⟩
  | add => ⟨"ADD_REG", "ADD", [.x, .y]⟩
  | sub => ⟨"SUB", "SUB", [.x, .y]⟩
  | shiftRight => ⟨"SHR", "SHR", [.x, .y]⟩
  | subFrom => ⟨"SUBN", "SUBN", [.x, .y]⟩
  | shiftLeft => ⟨"SHL", "SHL", [.x, .y]⟩
  | skipUnlessSame => ⟨"SNE_REG", "SNE", [.x, .y]⟩
  | loadIndex => ⟨"LD_I", "LD", [.fixed "I", .address]⟩
  | jumpFrom => ⟨"JP_V0", "JP", [.fixed "V0", .address]⟩
  | random => ⟨"RND", "RND", [.x, .byte]⟩
  | draw => ⟨"DRW", "DRW", [.x, .y, .height]⟩
  | skipIfKey => ⟨"SKP", "SKP", [.x]⟩
  | skipUnlessKey => ⟨"SKNP", "SKNP", [.x]⟩
  | readDelay => ⟨"LD_VX_DT", "LD", [.x, .fixed "DT"]⟩
  | awaitKey => ⟨"LD_VX_K", "LD", [.x, .fixed "K"]⟩
  | setDelay => ⟨"LD_DT_VX", "LD", [.fixed "DT", .x]⟩
  | setSound => ⟨"LD_ST_VX", "LD", [.fixed "ST", .x]⟩
  | addIndex => ⟨"ADD_I", "ADD", [.fixed "I", .x]⟩
  | pointAtGlyph => ⟨"LD_F", "LD", [.fixed "F", .x]⟩
  | storeDecimal => ⟨"LD_B", "LD", [.fixed "B", .x]⟩
  | storeRegisters => ⟨"LD_MEM_VX", "LD", [.fixed "[I]", .x]⟩
  | loadRegisters => ⟨"LD_VX_MEM", "LD", [.x, .fixed "[I]"]⟩
  | unknown => ⟨"UNKNOWN", ".WORD", [.word]⟩

/-- The name that reports use. -/
def name (op : Operation) : String := op.entry.name

/-- The first word of an assembly line. -/
def mnemonic (op : Operation) : String := op.entry.mnemonic

/-- The operands, in the order in which they are written. -/
def operands (op : Operation) : List Operand := op.entry.operands

/-- The formats of the operands in one text, empty if there are none. -/
def template (op : Operation) : String :=
  ", ".intercalate (op.operands.map Operand.template)

/-- Whether the operation decides itself where execution continues. -/
def isControlFlow : Operation → Bool
  | ret | jump | call | skipIfByte | skipUnlessByte | skipIfSame | skipUnlessSame
  | jumpFrom | skipIfKey | skipUnlessKey | awaitKey => true
  | _ => false

end Operation

/-- The operation of an instruction. -/
def Instruction.operation : Instruction → Operation
  | .clearScreen => .clearScreen
  | .ret => .ret
  | .jump .. => .jump
  | .call .. => .call
  | .skipIfByte .. => .skipIfByte
  | .skipUnlessByte .. => .skipUnlessByte
  | .skipIfSame .. => .skipIfSame
  | .loadByte .. => .loadByte
  | .addByte .. => .addByte
  | .copy .. => .copy
  | .bitOr .. => .bitOr
  | .bitAnd .. => .bitAnd
  | .bitXor .. => .bitXor
  | .add .. => .add
  | .sub .. => .sub
  | .shiftRight .. => .shiftRight
  | .subFrom .. => .subFrom
  | .shiftLeft .. => .shiftLeft
  | .skipUnlessSame .. => .skipUnlessSame
  | .loadIndex .. => .loadIndex
  | .jumpFrom .. => .jumpFrom
  | .random .. => .random
  | .draw .. => .draw
  | .skipIfKey .. => .skipIfKey
  | .skipUnlessKey .. => .skipUnlessKey
  | .readDelay .. => .readDelay
  | .awaitKey .. => .awaitKey
  | .setDelay .. => .setDelay
  | .setSound .. => .setSound
  | .addIndex .. => .addIndex
  | .pointAtGlyph .. => .pointAtGlyph
  | .storeDecimal .. => .storeDecimal
  | .storeRegisters .. => .storeRegisters
  | .loadRegisters .. => .loadRegisters

namespace Word

/-- The operation of a word, `unknown` if it encodes no instruction. -/
def operation (w : Word) : Operation :=
  match Instruction.decode w with
  | some i => i.operation
  | none => .unknown

/-- Whether the word encodes a documented instruction. -/
def isKnown (w : Word) : Bool := (Instruction.decode w).isSome

/-- The operands of the word, separated by commas. -/
def operands (w : Word) : String :=
  ", ".intercalate (w.operation.operands.map (Operand.text w))

/-- The assembly line of the word: its mnemonic, and its operands if it has any. -/
def assembly (w : Word) : String :=
  if w.operation.operands.isEmpty then w.operation.mnemonic
  else w.operation.mnemonic ++ " " ++ w.operands

end Word
end ChipEight
