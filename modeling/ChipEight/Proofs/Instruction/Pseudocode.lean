/-
Pseudocode as a table.

The pseudocode of an operation is a row of fixed texts with operands between them, and each operand
is a hexadecimal field of a width of its own.  `Operation.description` lists these pieces.

Blotting out every hexadecimal digit of a description leaves a text that does not depend on the
operands any more, and these texts are all different.  So a description tells the operation; given
the operation its pieces stand at known places, so it tells the operands too.
-/
import ChipEight.Instruction.Pseudocode
import ChipEight.Proofs.Instruction.Patterns
import ChipEight.Proofs.Text.Spelling
import Mathlib.Data.List.Nodup

namespace ChipEight

open Operand (registerName)

/-- A piece of a description. -/
inductive Piece where
  | text (s : String)
  | cell (c : Cell)

/-- A piece as it is written. -/
def Piece.shown (o : Operands) : Piece → List Char
  | text s => s.toList
  | cell c => (Hex.field c.width (c.value o)).toList

/-- The pieces of the pseudocode of an operation. -/
def Operation.description : Operation → List Piece
  | clearScreen => [.text "Clear Screen"]
  | ret => [.text "Return"]
  | jump => [.text "Jump to 0x", .cell .nnn]
  | call => [.text "Call at 0x", .cell .nnn]
  | skipIfByte => [.text "if(V", .cell .x, .text " == 0x", .cell .nn, .text "), skip next instr."]
  | skipUnlessByte =>
    [.text "if(V", .cell .x, .text " != 0x", .cell .nn, .text "), skip next instr."]
  | skipIfSame => [.text "if(V", .cell .x, .text " == V", .cell .y, .text "), skip next instr."]
  | loadByte => [.text "V", .cell .x, .text " = 0x", .cell .nn]
  | addByte => [.text "V", .cell .x, .text " = V", .cell .x, .text " + 0x", .cell .nn]
  | copy => [.text "V", .cell .x, .text " = V", .cell .y]
  | bitOr => [.text "V", .cell .x, .text " OR V", .cell .y, .text " (bitwise op)"]
  | bitAnd => [.text "V", .cell .x, .text " AND V", .cell .y, .text " (bitwise op)"]
  | bitXor => [.text "V", .cell .x, .text " XOR V", .cell .y]
  | add => [.text "V", .cell .x, .text " += V", .cell .y]
  | sub => [.text "V", .cell .x, .text " -= V", .cell .y]
  | shiftRight =>
    [.text "V", .cell .x, .text " = V", .cell .y, .text " = V", .cell .x, .text " >> 1"]
  | subFrom => [.text "V", .cell .x, .text " = V", .cell .y, .text " - V", .cell .x]
  | shiftLeft =>
    [.text "V", .cell .x, .text " = V", .cell .y, .text " = V", .cell .x, .text " << 1"]
  | skipUnlessSame => [.text "if(V", .cell .x, .text " != V", .cell .y, .text "), skip next instr."]
  | loadIndex => [.text "I = 0x", .cell .nnn]
  | jumpFrom => [.text "PC = V0 + 0x", .cell .nnn]
  | random => [.text "V", .cell .x, .text " = rand() AND 0x", .cell .nn, .text " (bitwise op)"]
  | draw => [.text "Draw at (V", .cell .x, .text ", V", .cell .y, .text ") with height ", .cell .n]
  | skipIfKey => [.text "if(key() == V", .cell .x, .text "), skip next instr."]
  | skipUnlessKey => [.text "if(key() != V", .cell .x, .text "), skip next instr."]
  | readDelay => [.text "V", .cell .x, .text " = get_delay()"]
  | awaitKey => [.text "V", .cell .x, .text " = get_key() (blocking operation)"]
  | setDelay => [.text "Delay timer = V", .cell .x]
  | setSound => [.text "Sound timer = V", .cell .x]
  | addIndex => [.text "I += V", .cell .x]
  | pointAtGlyph => [.text "I = sprite_addr(V", .cell .x, .text ")"]
  | storeDecimal => [.text "set_BCD(V", .cell .x, .text ")"]
  | storeRegisters => [.text "reg_dump(V", .cell .x, .text ", &I)"]
  | loadRegisters => [.text "reg_load(V", .cell .x, .text ", &I)"]
  | unknown => [.text unknownPseudocode]

theorem Instruction.toList_pseudocode (ins : Instruction) :
    ins.pseudocode.toList = ins.operation.description.flatMap (Piece.shown ins.encode.parts) := by
  cases ins
  -- A literal in front of the tactic is the same text with its marker written out.
  case' jump nnn => show ("Jump to " ++ Hex.marked 3 nnn.toNat).toList = _
  case' call nnn => show ("Call at " ++ Hex.marked 3 nnn.toNat).toList = _
  case' loadIndex nnn => show ("I = " ++ Hex.marked 3 nnn.toNat).toList = _
  case' jumpFrom nnn => show ("PC = V0 + " ++ Hex.marked 3 nnn.toNat).toList = _
  case' skipIfByte x nn =>
    show (s!"if({registerName x} == {Hex.marked 2 nn.toNat}), skip next instr.").toList = _
  case' skipUnlessByte x nn =>
    show (s!"if({registerName x} != {Hex.marked 2 nn.toNat}), skip next instr.").toList = _
  case' loadByte x nn => show (s!"{registerName x} = {Hex.marked 2 nn.toNat}").toList = _
  case' addByte x nn =>
    show (s!"{registerName x} = {registerName x} + {Hex.marked 2 nn.toNat}").toList = _
  case' random x nn =>
    show (s!"{registerName x} = rand() AND {Hex.marked 2 nn.toNat} (bitwise op)").toList = _
  all_goals
    try unfold pseudocode
    simp [registerName, Hex.marked, toString, Operation.description, operation, Piece.shown,
      Cell.width, Cell.value, encode, Word.parts]

/-- The pseudocode of a word consists of the pieces of its operation. -/
theorem Word.toList_pseudocode (w : Word) :
    w.pseudocode.toList = w.operation.description.flatMap (Piece.shown w.parts) := by
  unfold pseudocode operation
  cases hd : Instruction.decode w with
  | none => simp [Operation.description, Piece.shown]
  | some ins =>
      obtain rfl := Instruction.encode_of_decode hd
      exact ins.toList_pseudocode

/-! ### Blotting out the digits -/

/-- A character, blotted out if it is a digit of a field. -/
def blot (c : Char) : Char :=
  if ('0' ≤ c ∧ c ≤ '9') ∨ ('A' ≤ c ∧ c ≤ 'F') then '#' else c

/-- What is left of a piece. -/
def Piece.blotted : Piece → List Char
  | text s => s.toList.map blot
  | cell c => List.replicate c.width '#'

/-- What is left of a description. -/
def Operation.blotted (op : Operation) : List Char := op.description.flatMap Piece.blotted

theorem Cell.width_pos (c : Cell) : 0 < c.width := by
  cases c <;> exact Nat.succ_pos _

theorem Cell.value_lt (o : Operands) (c : Cell) : c.value o < 16 ^ c.width := by
  cases c with
  | digit d => exact d.isLt
  | x => exact o.x.isLt
  | y => exact o.y.isLt
  | n => exact o.n.isLt
  | nn => exact o.nn.isLt
  | nnn => exact o.nnn.isLt

theorem Piece.length_shown_cell (o : Operands) (c : Cell) :
    (shown o (cell c)).length = c.width := by
  obtain ⟨k, hk⟩ := Nat.exists_eq_add_one.mpr c.width_pos
  have hlt := c.value_lt o
  rw [hk] at hlt
  rw [shown, hk]
  exact Hex.length_toList_field hlt

theorem blot_digit : ∀ d < 16, blot (Hex.digit d) = '#' := by decide

theorem Piece.map_blot_shown (o : Operands) (piece : Piece) :
    (piece.shown o).map blot = piece.blotted := by
  cases piece with
  | text s => rfl
  | cell c =>
      refine List.eq_replicate_iff.mpr ⟨?_, ?_⟩
      · rw [List.length_map, length_shown_cell]
      · intro b hb
        obtain ⟨c', hc', rfl⟩ := List.mem_map.mp hb
        exact Hex.forall_mem_field (p := fun c => blot c = '#') blot_digit _ _ c' hc'

theorem Word.map_blot_pseudocode (w : Word) :
    w.pseudocode.toList.map blot = w.operation.blotted := by
  rw [toList_pseudocode, List.map_flatMap]
  simp only [Piece.map_blot_shown, Operation.blotted]

namespace Operation

/-- Descriptions of different operations differ in more than their digits. -/
theorem nodup_blotted : (all.map blotted).Nodup := by decide +kernel

theorem newline_not_mem_blotted : ∀ op ∈ all, '\n' ∉ op.blotted := by decide +kernel

/-- Every operand of a pattern stands in the description. -/
theorem cell_mem_description {op : Operation} {p : List Cell} (hp : op.pattern = some p) :
    ∀ c ∈ p, (∃ d, c = .digit d) ∨ Piece.cell c ∈ op.description := by
  cases op
  case unknown => contradiction
  all_goals
    obtain rfl := Option.some.inj hp
    simp [description, OfNat.ofNat]

end Operation

/-! ### Reading a description -/

theorem Piece.value_eq_of_flatMap_shown {o o' : Operands} {pieces : List Piece}
    (h : pieces.flatMap (shown o) = pieces.flatMap (shown o')) {c : Cell}
    (hc : cell c ∈ pieces) : c.value o = c.value o' := by
  induction pieces with
  | nil => cases hc
  | cons piece rest ih =>
      have hlength : (piece.shown o).length = (piece.shown o').length := by
        have hblotted := (piece.map_blot_shown o).trans (piece.map_blot_shown o').symm
        simpa using congrArg List.length hblotted
      obtain ⟨hpiece, hrest⟩ := List.append_inj h hlength
      rcases List.mem_cons.mp hc with rfl | hc
      · exact Hex.field_inj.mp (String.toList_inj.mp hpiece)
      · exact ih hrest hc

namespace Word

variable {w w' : Word}

theorem newline_not_mem_pseudocode (w : Word) : '\n' ∉ w.pseudocode.toList := by
  intro h
  have hblot := List.mem_map_of_mem (f := blot) h
  rw [map_blot_pseudocode] at hblot
  exact Operation.newline_not_mem_blotted _ (Operation.mem_all _) hblot

theorem operation_eq_of_pseudocode_eq (h : w.pseudocode = w'.pseudocode) :
    w.operation = w'.operation := by
  have hblotted : w.operation.blotted = w'.operation.blotted := by
    rw [← map_blot_pseudocode, ← map_blot_pseudocode, h]
  exact List.inj_on_of_nodup_map Operation.nodup_blotted (Operation.mem_all _)
    (Operation.mem_all _) hblotted

/-- **The pseudocode of a known word tells the word.** -/
theorem eq_of_pseudocode_eq (h : w.pseudocode = w'.pseudocode)
    (hknown : w.operation ≠ .unknown) : w = w' := by
  have hop := operation_eq_of_pseudocode_eq h
  have hshown := congrArg String.toList h
  rw [toList_pseudocode, toList_pseudocode, ← hop] at hshown
  apply eq_of_operands hknown hop
  intro p hp c hc
  rcases Operation.cell_mem_description hp c hc with ⟨d, rfl⟩ | hmem
  · rfl
  · exact Piece.value_eq_of_flatMap_shown hshown hmem

end Word
end ChipEight
