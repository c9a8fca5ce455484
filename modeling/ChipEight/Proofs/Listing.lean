/-
What a listing is made of.

Line `k` of a listing is made of the bytes `2 * k` and `2 * k + 1` of its block, so an odd byte at
the end makes no line, and it stands `2 * k` positions after the first line.

A printed line has a description between its address and its word.  Two printed lines of the same
word at the same address are equal only if their descriptions are, and no instruction is described
as the words without one are, because a description tells the operation.  So a reader can tell
from a line alone whether its word encodes an instruction, and the address and the word are read
back from their digits.
-/
import ChipEight.Listing
import ChipEight.Proofs.Instruction.Pseudocode

namespace ChipEight

/-! ### Descriptions -/

namespace Word

theorem pseudocode_of_decode {w : Word} {ins : Instruction}
    (hd : Instruction.decode w = some ins) : w.pseudocode = ins.pseudocode := by
  unfold pseudocode
  rw [hd]

theorem pseudocode_eq_unknown_iff (w : Word) :
    w.pseudocode = unknownPseudocode ↔ Instruction.decode w = none := by
  have hzero : (0 : Word).pseudocode = unknownPseudocode := by rw [pseudocode, decode_zero]
  constructor
  · intro h
    have hop : w.operation = (0 : Word).operation :=
      operation_eq_of_pseudocode_eq (h.trans hzero.symm)
    rw [← operation_eq_unknown_iff, hop, operation_eq_unknown_iff, decode_zero]
  · intro hd
    rw [pseudocode, hd]

end Word

namespace Listing

/-! ### Words and lines -/

/-- A block that has no first word has at most one byte. -/
theorem nil_or_singleton {data : List Byte}
    (h : ∀ high low rest, data = high :: low :: rest → False) : data = [] ∨ ∃ b, data = [b] := by
  cases data with
  | nil => exact .inl rfl
  | cons high rest =>
      cases rest with
      | nil => exact .inr ⟨high, rfl⟩
      | cons low rest => exact (h high low rest rfl).elim

theorem length_words (data : List Byte) : (words data).length = data.length / 2 := by
  induction data using words.induct with
  | case1 high low rest ih =>
      simp only [words, List.length_cons, ih]
      omega
  | case2 data hshort => obtain rfl | ⟨b, rfl⟩ := nil_or_singleton hshort <;> simp [words]

theorem getElem?_words {data : List Byte} {k : Nat} {high low : Byte}
    (hhigh : data[2 * k]? = some high) (hlow : data[2 * k + 1]? = some low) :
    (words data)[k]? = some (Word.ofBytes high low) := by
  induction data using words.induct generalizing k with
  | case1 b b' rest ih =>
      cases k with
      | zero =>
          obtain rfl := Option.some.inj hhigh
          obtain rfl := Option.some.inj hlow
          rfl
      | succ k => exact ih hhigh hlow
  | case2 data hshort => obtain rfl | ⟨b, rfl⟩ := nil_or_singleton hshort <;> cases hlow

theorem number_eq_mapIdx (start : Int) (ws : List Word) :
    number start ws = ws.mapIdx fun k w => ⟨start + 2 * k, w⟩ := by
  induction ws generalizing start with
  | nil => rfl
  | cons w rest ih =>
      rw [number, ih, List.mapIdx_cons]
      congr 1
      · simp
      · congr
        funext k w
        congr 1
        push_cast
        omega

/-! ### Printed lines -/

/-- A line as it is printed, with any description of its word. -/
def printed (address : Int) (description : String) (w : Word) : String :=
  "#" ++ Hex.marked 3 address ++ " : " ++ (description ++ " (" ++ Hex.marked 4 w.toNat ++ ")")

theorem format_eq_printed (address : Int) (w : Word) :
    Line.format ⟨address, w⟩ true = printed address w.pseudocode w := rfl

/-- The line shows an address in three digits, a description, and a word in four digits; the digits
are read back as any hexadecimal numeral is. -/
def Spelled (line : String) (address : Int) (description : String) (w : Word) : Prop :=
  ∃ front digits : String,
    line = "#0x" ++ front ++ " : " ++ description ++ " (0x" ++ digits ++ ")" ∧
      (front.length = 3 ∧ Numeral.read .sixteen front = .ok address) ∧
        digits.length = 4 ∧ Numeral.read .sixteen digits = .ok w.toNat

theorem spelled_printed {address : Int} (hlow : 0 ≤ address) (hhigh : address ≤ 4095)
    (description : String) (w : Word) :
    Spelled (printed address description w) address description w := by
  obtain ⟨a, rfl⟩ := Int.eq_ofNat_of_zero_le hlow
  have hfront : (Hex.field 3 a).length = 3 := by
    rw [← String.length_toList]
    exact Hex.length_toList_field (show a < 16 ^ 3 by omega)
  have hdigits : (Hex.field 4 w.toNat).length = 4 := by
    rw [← String.length_toList]
    exact Hex.length_toList_field w.isLt
  refine ⟨_, _, String.toList_inj.mp ?_, ⟨hfront, Numeral.read_field 3 a⟩, hdigits,
    Numeral.read_field 4 w.toNat⟩
  simp [printed, Hex.marked]

theorem printed_inj {address : Int} {description description' : String} {w : Word} :
    printed address description w = printed address description' w ↔
      description = description' := by
  unfold printed
  refine ⟨fun h => ?_, fun h => h ▸ rfl⟩
  simpa using h

/-- The printed lines of words that are given by their places. -/
theorem map_format_number (start : Int) (f : Nat → Word) (n : Nat) :
    (number start ((List.range n).map f)).map (·.format true) =
      (List.range n).map fun k : Nat => printed (start + 2 * k) (f k).pseudocode (f k) := by
  rw [number_eq_mapIdx]
  apply List.ext_getElem
  · simp
  · intro k _ _
    simp [format_eq_printed]

end Listing
end ChipEight
