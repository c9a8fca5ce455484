/-
The published patterns of the instruction set.

A pattern spells a word from its first digit to its last.  Some cells are fixed digits; the others
stand for operands: `x` and `y` for registers, one digit each, and `n`, `nn` and `nnn` for a
height, a byte and an address.  `Operation.pattern` is the published table, with one pattern for
each documented operation.

The table is used in two directions.  A pattern with operands filled in spells a number, and that
number is classified as the operation of the pattern, with the same operands.  Conversely each word
with an instruction is what the pattern of its operation spells with the word's own parts.  So no
word is spelled by two patterns, and the words without an instruction are those that none spells.
-/
import ChipEight.Proofs.Machine.Cycle
import Mathlib.Algebra.Group.Nat.Defs
import Mathlib.Data.List.Basic

namespace ChipEight

/-- A cell of a pattern. -/
inductive Cell where
  | digit (d : Nibble)
  | x
  | y
  | n
  | nn
  | nnn
  deriving DecidableEq, Repr

instance (d : Nat) : OfNat Cell d := ⟨.digit (BitVec.ofNat 4 d)⟩

/-- Values for the operands of a pattern. -/
structure Operands where
  x : Register
  y : Register
  n : Nibble
  nn : Byte
  nnn : Address

namespace Cell

/-- How many digits a cell takes. -/
def width : Cell → Nat
  | digit _ | x | y | n => 1
  | nn => 2
  | nnn => 3

/-- What a cell stands for. -/
def value (o : Operands) : Cell → Nat
  | digit d => d.toNat
  | x => o.x.toNat
  | y => o.y.toNat
  | n => o.n.toNat
  | nn => o.nn.toNat
  | nnn => o.nnn.toNat

end Cell

/-- The number that a pattern spells. -/
def spelled (o : Operands) (pattern : List Cell) : Nat :=
  pattern.foldl (fun n cell => n * 16 ^ cell.width + cell.value o) 0

/-- The parts of a word, each as an operand. -/
def Word.parts (w : Word) : Operands := ⟨w.x, w.y, w.n, w.nn, w.nnn⟩

namespace Operation

/-- The published table. -/
def pattern : Operation → Option (List Cell)
  | clearScreen => some [0, 0, 0xE, 0]
  | ret => some [0, 0, 0xE, 0xE]
  | jump => some [1, .nnn]
  | call => some [2, .nnn]
  | skipIfByte => some [3, .x, .nn]
  | skipUnlessByte => some [4, .x, .nn]
  | skipIfSame => some [5, .x, .y, 0]
  | loadByte => some [6, .x, .nn]
  | addByte => some [7, .x, .nn]
  | copy => some [8, .x, .y, 0]
  | bitOr => some [8, .x, .y, 1]
  | bitAnd => some [8, .x, .y, 2]
  | bitXor => some [8, .x, .y, 3]
  | add => some [8, .x, .y, 4]
  | sub => some [8, .x, .y, 5]
  | shiftRight => some [8, .x, .y, 6]
  | subFrom => some [8, .x, .y, 7]
  | shiftLeft => some [8, .x, .y, 0xE]
  | skipUnlessSame => some [9, .x, .y, 0]
  | loadIndex => some [0xA, .nnn]
  | jumpFrom => some [0xB, .nnn]
  | random => some [0xC, .x, .nn]
  | draw => some [0xD, .x, .y, .n]
  | skipIfKey => some [0xE, .x, 9, 0xE]
  | skipUnlessKey => some [0xE, .x, 0xA, 1]
  | readDelay => some [0xF, .x, 0, 7]
  | awaitKey => some [0xF, .x, 0, 0xA]
  | setDelay => some [0xF, .x, 1, 5]
  | setSound => some [0xF, .x, 1, 8]
  | addIndex => some [0xF, .x, 1, 0xE]
  | pointAtGlyph => some [0xF, .x, 2, 9]
  | storeDecimal => some [0xF, .x, 3, 3]
  | storeRegisters => some [0xF, .x, 5, 5]
  | loadRegisters => some [0xF, .x, 6, 5]
  | unknown => none

/-- The instruction of an operation with given operands. -/
def withOperands (o : Operands) : Operation → Option Instruction
  | clearScreen => some .clearScreen
  | ret => some .ret
  | jump => some (.jump o.nnn)
  | call => some (.call o.nnn)
  | skipIfByte => some (.skipIfByte o.x o.nn)
  | skipUnlessByte => some (.skipUnlessByte o.x o.nn)
  | skipIfSame => some (.skipIfSame o.x o.y)
  | loadByte => some (.loadByte o.x o.nn)
  | addByte => some (.addByte o.x o.nn)
  | copy => some (.copy o.x o.y)
  | bitOr => some (.bitOr o.x o.y)
  | bitAnd => some (.bitAnd o.x o.y)
  | bitXor => some (.bitXor o.x o.y)
  | add => some (.add o.x o.y)
  | sub => some (.sub o.x o.y)
  | shiftRight => some (.shiftRight o.x o.y)
  | subFrom => some (.subFrom o.x o.y)
  | shiftLeft => some (.shiftLeft o.x o.y)
  | skipUnlessSame => some (.skipUnlessSame o.x o.y)
  | loadIndex => some (.loadIndex o.nnn)
  | jumpFrom => some (.jumpFrom o.nnn)
  | random => some (.random o.x o.nn)
  | draw => some (.draw o.x o.y o.n)
  | skipIfKey => some (.skipIfKey o.x)
  | skipUnlessKey => some (.skipUnlessKey o.x)
  | readDelay => some (.readDelay o.x)
  | awaitKey => some (.awaitKey o.x)
  | setDelay => some (.setDelay o.x)
  | setSound => some (.setSound o.x)
  | addIndex => some (.addIndex o.x)
  | pointAtGlyph => some (.pointAtGlyph o.x)
  | storeDecimal => some (.storeDecimal o.x)
  | storeRegisters => some (.storeRegisters o.x)
  | loadRegisters => some (.loadRegisters o.x)
  | unknown => none

theorem mem_all (op : Operation) : op ∈ all := by
  cases op <;> decide

theorem pattern_eq_none_iff (op : Operation) : op.pattern = none ↔ op = unknown := by
  cases op <;> simp [pattern]

end Operation

/-! ### From patterns to words and back -/

section Patterns

variable {op : Operation} {p : List Cell} {o : Operands} {ins : Instruction}

theorem exists_withOperands (hp : op.pattern = some p) (o : Operands) :
    ∃ ins, op.withOperands o = some ins := by
  cases op
  case unknown => contradiction
  all_goals exact ⟨_, rfl⟩

theorem operation_of_withOperands (h : op.withOperands o = some ins) : ins.operation = op := by
  cases op
  case unknown => contradiction
  all_goals
    obtain rfl := Option.some.inj h
    rfl

/-- A pattern spells the word of the instruction with the operands that were filled in. -/
theorem toNat_encode_of_withOperands (h : op.withOperands o = some ins)
    (hp : op.pattern = some p) : ins.encode.toNat = spelled o p := by
  cases op
  case unknown => contradiction
  all_goals
    obtain rfl := Option.some.inj h
    obtain rfl := Option.some.inj hp
    simp only [Instruction.encode, Word.toNat_withAddress, Word.toNat_withByte,
      Word.toNat_ofNibbles]
    simp [spelled, Cell.width, Cell.value]
  all_goals omega

/-- The operands that were filled in are found in the word again. -/
theorem value_parts_of_withOperands (h : op.withOperands o = some ins)
    (hp : op.pattern = some p) {cell : Cell} (hcell : cell ∈ p) :
    cell.value ins.encode.parts = cell.value o := by
  cases op
  case unknown => contradiction
  all_goals
    obtain rfl := Option.some.inj h
    obtain rfl := Option.some.inj hp
    revert cell
    simp [Cell.value, Instruction.encode, Word.parts]

/-- An instruction is made of its operation and the parts of its word. -/
theorem withOperands_parts (ins : Instruction) :
    ins.operation.withOperands ins.encode.parts = some ins := by
  cases ins <;>
    simp [Instruction.operation, Operation.withOperands, Instruction.encode, Word.parts]

theorem spelled_congr {o' : Operands} (h : ∀ cell ∈ p, cell.value o = cell.value o') :
    spelled o p = spelled o' p := by
  unfold spelled
  apply List.foldl_ext
  intro n cell hcell
  rw [h cell hcell]

theorem spelled_lt (hp : op.pattern = some p) (o : Operands) : spelled o p < 65536 := by
  obtain ⟨ins, hins⟩ := exists_withOperands hp o
  rw [← toNat_encode_of_withOperands hins hp]
  exact ins.encode.isLt

end Patterns

namespace Word

variable {op : Operation} {p : List Cell} {w : Word}

/-- **A word that a pattern spells has the operation of the pattern.** -/
theorem operation_of_spelled (hp : op.pattern = some p) {o : Operands}
    (hw : w.toNat = spelled o p) :
    w.operation = op ∧ ∀ cell ∈ p, cell.value w.parts = cell.value o := by
  obtain ⟨ins, hins⟩ := exists_withOperands hp o
  obtain rfl : w = ins.encode :=
    BitVec.eq_of_toNat_eq (hw.trans (toNat_encode_of_withOperands hins hp).symm)
  refine ⟨?_, fun cell hcell => value_parts_of_withOperands hins hp hcell⟩
  rw [operation_encode, operation_of_withOperands hins]

/-- **A word with an instruction is spelled by the pattern of its operation.** -/
theorem toNat_eq_spelled (h : w.operation ≠ .unknown) :
    ∃ p, w.operation.pattern = some p ∧ w.toNat = spelled w.parts p := by
  obtain ⟨p, hp⟩ := Option.ne_none_iff_exists'.mp (mt w.operation.pattern_eq_none_iff.mp h)
  obtain ⟨ins, rfl, hop⟩ := exists_instruction h
  have hins := withOperands_parts ins
  rw [← hop] at hins
  exact ⟨p, hp, toNat_encode_of_withOperands hins hp⟩

/-- Words of one operation differ in an operand, if they differ at all. -/
theorem eq_of_operands {w' : Word} (hknown : w.operation ≠ .unknown)
    (hop : w.operation = w'.operation)
    (hparts : ∀ p, w.operation.pattern = some p → ∀ cell ∈ p,
      cell.value w.parts = cell.value w'.parts) : w = w' := by
  obtain ⟨p, hp, hw⟩ := toNat_eq_spelled hknown
  obtain ⟨p', hp', hw'⟩ := toNat_eq_spelled (hop ▸ hknown)
  rw [← hop, hp] at hp'
  obtain rfl := Option.some.inj hp'
  apply BitVec.eq_of_toNat_eq
  rw [hw, hw']
  exact spelled_congr (hparts p hp)

theorem operation_eq_unknown_iff_spelled :
    w.operation = .unknown ↔
      ∀ (op : Operation) (p : List Cell) (o : Operands), op.pattern = some p →
        w.toNat ≠ spelled o p := by
  constructor
  · intro hun op p o hp hw
    have hop := (operation_of_spelled hp hw).1
    rw [hop, ← op.pattern_eq_none_iff, hp] at hun
    cases hun
  · intro hnone
    by_contra hknown
    obtain ⟨p, hp, hw⟩ := toNat_eq_spelled hknown
    exact hnone _ p _ hp hw

/-! ### Integers as words -/

theorem toNat_ofInt (k : Int) : ((ofInt k).toNat : Int) = k % 65536 := by
  rw [ofInt, BitVec.toNat_ofInt]
  omega

theorem ofInt_emod (k : Int) : ofInt (k % 65536) = ofInt k := by
  apply BitVec.eq_of_toNat_eq
  have h := toNat_ofInt (k % 65536)
  have h' := toNat_ofInt k
  omega

/-- What an integer is classified as. -/
structure Classified (k : Int) (w : Word) : Prop where
  number : (w.toNat : Int) = k % 65536
  periodic : w = ofInt (k % 65536)
  /-- The parts of the word overlap, and each of them is made of smaller ones. -/
  word : w.toNat = 4096 * w.family.toNat + w.nnn.toNat
  address : w.nnn.toNat = 256 * w.x.toNat + w.nn.toNat
  byte : w.nn.toNat = 16 * w.y.toNat + w.n.toNat
  ranges : w.family.toNat < 16 ∧ w.x.toNat < 16 ∧ w.y.toNat < 16 ∧ w.n.toNat < 16 ∧
    w.nn.toNat < 256 ∧ w.nnn.toNat < 4096
  /-- A known operation spells the number, with the parts of the word as operands. -/
  known : w.operation ≠ .unknown →
    ∃ p, w.operation.pattern = some p ∧ k % 65536 = spelled w.parts p
  unknown_iff : w.operation = .unknown ↔
    ∀ (op : Operation) (p : List Cell) (o : Operands), op.pattern = some p →
      k % 65536 ≠ spelled o p

theorem classified (k : Int) : Classified k (ofInt k) := by
  have hnumber := toNat_ofInt k
  generalize hw : ofInt k = w at hnumber
  have hfamily := w.toNat_family
  have hnnn := w.toNat_nnn
  have hx := w.toNat_x
  have hnn := w.toNat_nn
  have hy := w.toNat_y
  have hn := w.toNat_n
  constructor
  case number => exact hnumber
  case periodic => rw [ofInt_emod, hw]
  case word => omega
  case address => omega
  case byte => omega
  case ranges => exact ⟨w.family.isLt, w.x.isLt, w.y.isLt, w.n.isLt, w.nn.isLt, w.nnn.isLt⟩
  case known =>
    intro hknown
    obtain ⟨p, hp, hspelled⟩ := toNat_eq_spelled hknown
    exact ⟨p, hp, by omega⟩
  case unknown_iff =>
    rw [operation_eq_unknown_iff_spelled]
    simp only [← hnumber, ne_eq, Int.ofNat_inj]

/-- **The documented instructions are recognised, and nothing else is.**  Every integer is read as
a word whose parts fit together.  Every pattern of the published table, with any operands, spells a
number of that table's operation and with these operands; so two patterns of different operations
have no number in common. -/
theorem documented_exactly :
    (∀ k : Int, Classified k (ofInt k)) ∧
      (∀ op : Operation, op.pattern = none ↔ op = .unknown) ∧
      ∀ (op : Operation) (p : List Cell), op.pattern = some p → ∀ o : Operands,
        spelled o p < 65536 ∧ (ofInt (spelled o p)).operation = op ∧
          (∀ cell ∈ p, cell.value (ofInt (spelled o p)).parts = cell.value o) ∧
          ∀ (op' : Operation) (p' : List Cell) (o' : Operands), op'.pattern = some p' →
            spelled o p = spelled o' p' → op = op' := by
  refine ⟨classified, Operation.pattern_eq_none_iff, ?_⟩
  intro op p hp o
  have hlt := spelled_lt hp o
  have hnumber : (ofInt (spelled o p)).toNat = spelled o p := by
    have h := toNat_ofInt (spelled o p)
    omega
  obtain ⟨hop, hparts⟩ := operation_of_spelled hp hnumber
  refine ⟨hlt, hop, hparts, ?_⟩
  intro op' p' o' hp' heq
  rw [← hop]
  exact (operation_of_spelled hp' (hnumber.trans heq)).1

end Word
end ChipEight
