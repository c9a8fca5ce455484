/-
Reading an assembly line.

An assembly line is a mnemonic and the texts of the operands, with a blank between any two of them
and a comma after every operand but the last.  None of these texts has a blank in it, so the line
falls apart into them again.

Several operations share a mnemonic.  What tells them apart is the look of the operands: a register,
a literal of so many digits, a plain number, or a name.  No two rows of the assembly table agree in
the mnemonic and in the looks of all operands, so a line tells its operation.  And every operand
that the pattern of an operation leaves open is printed, so the line tells the whole word.
-/
import ChipEight.Proofs.Instruction.Patterns
import ChipEight.Proofs.Text.Spelling
import Mathlib.Data.List.Nodup

namespace ChipEight

/-! ### The texts in a line -/

/-- The texts of a list with a comma after each of them but the last. -/
def punctuate : List (List Char) → List (List Char)
  | [] => []
  | [t] => [t]
  | t :: t' :: rest => (t ++ [',']) :: punctuate (t' :: rest)

theorem punctuate_ne_nil (t : List Char) (rest : List (List Char)) :
    punctuate (t :: rest) ≠ [] := by
  cases rest <;> exact List.cons_ne_nil _ _

theorem intercalate_punctuate (ts : List (List Char)) :
    [',', ' '].intercalate ts = [' '].intercalate (punctuate ts) := by
  induction ts with
  | nil => rfl
  | cons t rest ih =>
      cases rest with
      | nil => rfl
      | cons t' rest =>
          rw [punctuate, List.intercalate_cons_cons, ih,
            List.intercalate_cons_of_ne_nil (punctuate_ne_nil t' rest)]
          simp

theorem punctuate_injective : Function.Injective punctuate := by
  intro ts
  induction ts with
  | nil =>
      intro us h
      cases us with
      | nil => rfl
      | cons u us => exact absurd h.symm (punctuate_ne_nil u us)
  | cons t rest ih =>
      intro us h
      cases us with
      | nil => exact absurd h (punctuate_ne_nil t rest)
      | cons u us =>
          cases rest with
          | nil =>
              cases us with
              | nil => exact h
              | cons u' us => exact absurd (List.cons.inj h).2.symm (punctuate_ne_nil u' us)
          | cons t' rest =>
              cases us with
              | nil => exact absurd (List.cons.inj h).2 (punctuate_ne_nil t' rest)
              | cons u' us =>
                  obtain ⟨hhead, htail⟩ := List.cons.inj h
                  rw [List.append_cancel_right hhead, ih htail]

theorem mem_punctuate {c : Char} (hc : c ≠ ',') {ts : List (List Char)} (h : ∀ t ∈ ts, c ∉ t) :
    ∀ t ∈ punctuate ts, c ∉ t := by
  induction ts with
  | nil => exact h
  | cons t rest ih =>
      obtain ⟨ht, hrest⟩ := List.forall_mem_cons.mp h
      cases rest with
      | nil => exact h
      | cons t' rest =>
          refine List.forall_mem_cons.mpr ⟨?_, ih hrest⟩
          simpa [hc] using ht

namespace Word

/-- The texts of the operands of a word. -/
def operandTexts (w : Word) : List (List Char) :=
  w.operation.operands.map fun operand => (operand.text w).toList

theorem toList_assembly (w : Word) :
    w.assembly.toList =
      [' '].intercalate (w.operation.mnemonic.toList :: punctuate w.operandTexts) := by
  unfold assembly operands operandTexts
  cases w.operation.operands with
  | nil => simp [punctuate]
  | cons operand rest =>
      rw [List.map_cons, List.map_cons, List.intercalate_cons_of_ne_nil (punctuate_ne_nil _ _),
        ← intercalate_punctuate]
      simp [Function.comp_def]

end Word

/-! ### Operands and their looks -/

namespace Operand

/-- What the text of an operand looks like. -/
inductive Look where
  | register
  | literal (digits : Nat)
  | count
  | name (text : List Char)
  deriving DecidableEq

/-- The look of a text. -/
def Look.ofText : List Char → Look
  | 'V' :: _ => register
  | '0' :: 'x' :: digits => literal digits.length
  | c :: rest => if c.isDigit then count else name (c :: rest)
  | [] => name []

/-- The look of an operand, whatever its value. -/
def look : Operand → Look
  | x | y => .register
  | byte => .literal 2
  | address => .literal 3
  | word => .literal 4
  | height => .count
  | fixed s => .ofText s.toList

/-- The cell of a pattern that an operand prints. -/
def cell? : Operand → Option Cell
  | x => some .x
  | y => some .y
  | byte => some .nn
  | address => some .nnn
  | height => some .n
  | word | fixed _ => none

theorem ofText_height : ∀ n : Nibble, Look.ofText (toString n.toNat).toList = .count := by decide

theorem height_inj : ∀ n n' : Nibble, toString n.toNat = toString n'.toNat → n = n' := by decide

theorem ofText_text (w : Word) (operand : Operand) :
    Look.ofText (operand.text w).toList = operand.look := by
  have hbyte : (Hex.field 2 w.nn.toNat).toList.length = 2 := Hex.length_toList_field w.nn.isLt
  have haddress : (Hex.field 3 w.nnn.toNat).toList.length = 3 :=
    Hex.length_toList_field w.nnn.isLt
  have hword : (Hex.field 4 w.toNat).toList.length = 4 := Hex.length_toList_field w.isLt
  cases operand with
  | x => simp [text, registerName, Look.ofText, look]
  | y => simp [text, registerName, Look.ofText, look]
  | byte => simp [text, Hex.marked, Look.ofText, look, hbyte]
  | address => simp [text, Hex.marked, Look.ofText, look, haddress]
  | height => exact ofText_height w.n
  | word => simp [text, Hex.marked, Look.ofText, look, hword]
  | fixed s => rfl

/-- An operand is printed with its value. -/
theorem value_eq_of_text_eq {w w' : Word} {operand : Operand} {c : Cell}
    (hc : operand.cell? = some c) (h : operand.text w = operand.text w') :
    c.value w.parts = c.value w'.parts := by
  cases operand with
  | x =>
      obtain rfl := Option.some.inj hc
      exact Hex.field_inj.mp ((String.append_right_inj _).mp h)
  | y =>
      obtain rfl := Option.some.inj hc
      exact Hex.field_inj.mp ((String.append_right_inj _).mp h)
  | byte =>
      obtain rfl := Option.some.inj hc
      exact Hex.marked_inj.mp h
  | address =>
      obtain rfl := Option.some.inj hc
      exact Hex.marked_inj.mp h
  | height =>
      obtain rfl := Option.some.inj hc
      exact congrArg BitVec.toNat (height_inj w.n w'.n h)
  | word => cases hc
  | fixed s => cases hc

end Operand

/-! ### The assembly table -/

namespace Operation

/-- What the lines of an operation have in common: the mnemonic and the looks of the operands. -/
def form (op : Operation) : String × List Operand.Look :=
  (op.mnemonic, op.operands.map Operand.look)

theorem nodup_form : (all.map form).Nodup := by decide +kernel

theorem blank_not_mem_mnemonic : ∀ op ∈ all, ' ' ∉ op.mnemonic.toList := by decide +kernel

/-- Whether an operand has a value, or a text without a blank. -/
def isUnbroken : Operand → Bool
  | .fixed s => !s.toList.contains ' '
  | _ => true

theorem operands_isUnbroken : ∀ op ∈ all, ∀ operand ∈ op.operands, isUnbroken operand := by
  decide +kernel

/-- Every operand of a pattern is printed. -/
theorem cell_printed {op : Operation} {p : List Cell} (hp : op.pattern = some p) :
    ∀ c ∈ p, (∃ d, c = .digit d) ∨ ∃ operand ∈ op.operands, operand.cell? = some c := by
  cases op
  case unknown => contradiction
  all_goals
    obtain rfl := Option.some.inj hp
    simp [operands, entry, Operand.cell?, OfNat.ofNat]

end Operation

namespace Word

variable {w w' : Word}

theorem blank_not_mem_text (w : Word) {operand : Operand} (h : Operation.isUnbroken operand) :
    ' ' ∉ (operand.text w).toList := by
  have hfield : ∀ width n : Nat, ' ' ∉ (Hex.field width n).toList := by
    intro width n hmem
    exact Hex.forall_mem_field (p := fun c => c ≠ ' ') (by decide) width n ' ' hmem rfl
  have hheight : ∀ n : Nibble, ' ' ∉ (toString n.toNat).toList := by decide
  cases operand with
  | fixed s =>
      show ' ' ∉ s.toList
      simpa [Operation.isUnbroken] using h
  | height => exact hheight w.n
  | _ => simp [Operand.text, Operand.registerName, Hex.marked, hfield]

/-- **A line falls apart into its texts.** -/
theorem texts_eq_of_assembly_eq (h : w.assembly = w'.assembly) :
    w.operation.mnemonic = w'.operation.mnemonic ∧ w.operandTexts = w'.operandTexts := by
  have hsplit : ∀ w : Word, w.assembly.toList.splitOn ' ' =
      w.operation.mnemonic.toList :: punctuate w.operandTexts := by
    intro w
    rw [toList_assembly]
    refine List.splitOn_intercalate ' ' ?_ (List.cons_ne_nil _ _)
    refine List.forall_mem_cons.mpr ⟨?_, mem_punctuate (by decide) ?_⟩
    · exact Operation.blank_not_mem_mnemonic _ (Operation.mem_all _)
    · intro t ht
      obtain ⟨operand, hoperand, rfl⟩ := List.mem_map.mp ht
      exact blank_not_mem_text w
        (Operation.operands_isUnbroken _ (Operation.mem_all _) operand hoperand)
  have htexts := hsplit w
  rw [h, hsplit w'] at htexts
  obtain ⟨hmnemonic, hoperands⟩ := List.cons.inj htexts
  exact ⟨(String.toList_inj.mp hmnemonic).symm, (punctuate_injective hoperands).symm⟩

theorem operation_eq_of_assembly_eq (h : w.assembly = w'.assembly) :
    w.operation = w'.operation := by
  have hlooks : ∀ w : Word, w.operandTexts.map Operand.Look.ofText =
      w.operation.operands.map Operand.look := by
    intro w
    simp only [operandTexts, List.map_map, Function.comp_def, Operand.ofText_text]
  obtain ⟨hmnemonic, htexts⟩ := texts_eq_of_assembly_eq h
  have hform : w.operation.form = w'.operation.form := by
    unfold Operation.form
    rw [hmnemonic, ← hlooks w, ← hlooks w', htexts]
  exact List.inj_on_of_nodup_map Operation.nodup_form (Operation.mem_all _) (Operation.mem_all _)
    hform

theorem text_eq_of_assembly_eq (h : w.assembly = w'.assembly) :
    ∀ operand ∈ w.operation.operands, operand.text w = operand.text w' := by
  have htexts := (texts_eq_of_assembly_eq h).2
  unfold operandTexts at htexts
  rw [← operation_eq_of_assembly_eq h, List.map_inj_left] at htexts
  intro operand hoperand
  exact String.toList_inj.mp (htexts operand hoperand)

/-- **An assembly line tells its word.** -/
theorem assembly_injective : Function.Injective assembly := by
  intro w w' h
  have hop := operation_eq_of_assembly_eq h
  have htext := text_eq_of_assembly_eq h
  by_cases hun : w.operation = .unknown
  · rw [hun] at htext
    exact BitVec.eq_of_toNat_eq (Hex.marked_inj.mp (htext .word (List.mem_singleton_self _)))
  · apply eq_of_operands hun hop
    intro p hp c hc
    rcases Operation.cell_printed hp c hc with ⟨d, rfl⟩ | ⟨operand, hoperand, hcell⟩
    · rfl
    · exact Operand.value_eq_of_text_eq hcell (htext operand hoperand)

end Word
end ChipEight
