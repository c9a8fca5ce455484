/-
A listing loses nothing.

A listing is a straight walk over its bytes.  Two bytes make one line and a line gives back its two
bytes, so a listing of two blocks, one after the other, is made of the listings of both, provided
that the first block ends with a whole word; and a bound on the number of lines only cuts the
listing off.

The printed text loses nothing either.  No line has a line end in it, so the text falls apart into
its lines, and each line shows its word in the four digits before the closing parenthesis, which are
read back as any hexadecimal numeral is.
-/
import ChipEight.Proofs.Instruction.Pseudocode
import ChipEight.Proofs.Listing
import Mathlib.Algebra.Group.Nat.Even

namespace ChipEight

namespace Word

@[simp] theorem high_ofBytes (high low : Byte) : (ofBytes high low).high = high :=
  BitVec.eq_of_toNat_eq (by rw [toNat_high, toNat_ofBytes]; omega)

@[simp] theorem nn_ofBytes (high low : Byte) : (ofBytes high low).nn = low :=
  BitVec.eq_of_toNat_eq (by rw [toNat_nn, toNat_ofBytes]; omega)

end Word

namespace Listing

/-- The bytes of a list of words, the high byte of each first. -/
def bytes (ws : List Word) : List Byte := ws.flatMap fun w => [w.high, w.nn]

/-! ### The walk -/

theorem words_append {data : List Byte} (h : Even data.length) (rest : List Byte) :
    words (data ++ rest) = words data ++ words rest := by
  induction data using words.induct with
  | case1 high low tail ih =>
      have htail : Even tail.length := by simpa [Nat.even_add_one] using h
      exact congrArg (Word.ofBytes high low :: ·) (ih htail)
  | case2 data hshort =>
      obtain rfl | ⟨b, rfl⟩ := nil_or_singleton hshort
      · simp [words]
      · exact absurd h Nat.not_even_one

/-- The words of a block are its bytes, but for an odd one at the end. -/
theorem bytes_words (data : List Byte) :
    bytes (words data) = data.take (2 * (data.length / 2)) := by
  induction data using words.induct with
  | case1 high low tail ih =>
      have hlength : 2 * ((high :: low :: tail).length / 2) = 2 * (tail.length / 2) + 2 := by
        simp only [List.length_cons]
        omega
      rw [hlength, words, bytes, List.flatMap_cons]
      simp [← ih, bytes]
  | case2 data hshort => obtain rfl | ⟨b, rfl⟩ := nil_or_singleton hshort <;> simp [words, bytes]

theorem number_append (start : Int) (ws ws' : List Word) :
    number start (ws ++ ws') = number start ws ++ number (start + 2 * ws.length) ws' := by
  induction ws generalizing start with
  | nil => simp [number]
  | cons w rest ih =>
      have hnext :
          start + 2 + 2 * (rest.length : Int) = start + 2 * ((w :: rest).length : Int) := by
        simp only [List.length_cons]
        omega
      rw [List.cons_append, number, ih, hnext]
      rfl

theorem number_take (start : Int) (ws : List Word) (n : Nat) :
    number start (ws.take n) = (number start ws).take n := by
  induction ws generalizing start n with
  | nil => simp [number]
  | cons w rest ih =>
      cases n with
      | zero => rfl
      | succ n => exact congrArg (⟨start, w⟩ :: ·) (ih (start + 2) n)

theorem map_word_number (start : Int) (ws : List Word) : (number start ws).map (·.word) = ws := by
  induction ws generalizing start with
  | nil => rfl
  | cons w rest ih => exact congrArg (w :: ·) (ih (start + 2))

theorem disassemble_none (data : List Byte) (start : Int) :
    disassemble data start none = number start (words data) := rfl

/-- A bound on the number of lines cuts the listing off. -/
theorem disassemble_some (data : List Byte) (start count : Int) :
    disassemble data start (some count) =
      (disassemble data start none).take (max count 0).toNat := by
  have hmax : (max count 0).toNat = count.toNat := by omega
  rw [hmax]
  exact number_take start (words data) count.toNat

theorem length_disassemble (data : List Byte) (start : Int) :
    (disassemble data start none).length = data.length / 2 := by
  rw [disassemble_none, number_eq_mapIdx, List.length_mapIdx, length_words]

theorem address_of_getElem? {data : List Byte} {start : Int} {k : Nat} {line : Line}
    (h : (disassemble data start none)[k]? = some line) : line.address = start + 2 * k := by
  rw [disassemble_none, number_eq_mapIdx, List.getElem?_mapIdx] at h
  obtain ⟨w, -, rfl⟩ := Option.map_eq_some_iff.mp h
  rfl

theorem bytes_disassemble (data : List Byte) (start : Int) :
    bytes ((disassemble data start none).map (·.word)) = data.take (2 * (data.length / 2)) := by
  rw [disassemble_none, map_word_number, bytes_words]

theorem disassemble_append {data : List Byte} (h : Even data.length) (rest : List Byte)
    (start : Int) :
    disassemble (data ++ rest) start none =
      disassemble data start none ++ disassemble rest (start + data.length) none := by
  obtain ⟨k, hk⟩ := h
  have hnext : start + 2 * ((words data).length : Int) = start + data.length := by
    rw [length_words]
    omega
  rw [disassemble_none, words_append ⟨k, hk⟩, number_append, hnext]
  rfl

/-! ### The printed text -/

/-- The lines of a text. -/
def splitLines (text : String) : List String := (text.split '\n').toList.map (·.copy)

/-- In front of the closing parenthesis of a line there are four digits, the numeral of a word. -/
def ShowsWord (line : String) (w : Word) : Prop :=
  ∃ front digits : String, line = front ++ digits ++ ")" ∧ digits.length = 4 ∧
    (∀ c ∈ digits.toList, ∃ d < 16, c = Hex.digit d) ∧
      Numeral.read .sixteen digits = .ok w.toNat

/-- The word that a line shows: the numeral in front of its last character. -/
def shownWord? (line : String) : Option Word :=
  let digits := String.ofList ((line.toList.reverse.drop 1).take 4).reverse
  (Numeral.read .sixteen digits).toOption.map .ofInt

/-- The bytes of the words that a text shows. -/
def shownBytes (text : String) : List Byte := bytes ((splitLines text).filterMap shownWord?)

theorem newline_not_mem_format (line : Line) (withAddress : Bool) :
    '\n' ∉ (line.format withAddress).toList := by
  have hfield : ∀ (width : Nat) (n : Int), '\n' ∉ (Hex.field width n).toList := by
    intro width n hmem
    exact Hex.forall_mem_field_int (p := fun c => c ≠ '\n') (by decide) (by decide) width n _
      hmem rfl
  have htext := line.word.newline_not_mem_pseudocode
  cases withAddress <;>
    simp [Line.format, Line.text, Line.addressText, Line.wordText, Hex.marked, toString, hfield,
      htext]

theorem splitLines_text (data : List Byte) (withAddress : Bool) (start : Int)
    (count : Option Int) :
    splitLines (text data withAddress start count) =
      if lines data withAddress start count = [] then [""]
      else lines data withAddress start count := by
  refine String.toList_split_intercalate ?_
  intro s hs
  obtain ⟨line, -, rfl⟩ := List.mem_map.mp hs
  exact newline_not_mem_format line withAddress

theorem showsWord_format (line : Line) (withAddress : Bool) :
    ShowsWord (line.format withAddress) line.word := by
  have hlength : (Hex.field 4 line.word.toNat).length = 4 := by
    rw [← String.length_toList]
    exact Hex.length_toList_field line.word.isLt
  have hdigits : ∀ c ∈ (Hex.field 4 line.word.toNat).toList, ∃ d < 16, c = Hex.digit d :=
    Hex.forall_mem_field (fun d hd => ⟨d, hd, rfl⟩) 4 _
  have hread := Numeral.read_field 4 line.word.toNat
  cases withAddress with
  | false =>
      refine ⟨line.text ++ " (0x", _, String.toList_inj.mp ?_, hlength, hdigits, hread⟩
      simp [Line.format, Line.wordText, Hex.marked, toString]
  | true =>
      refine ⟨"#" ++ line.addressText ++ " : " ++ line.text ++ " (0x", _,
        String.toList_inj.mp ?_, hlength, hdigits, hread⟩
      simp [Line.format, Line.wordText, Hex.marked, toString]

theorem shownWord?_of_showsWord {line : String} {w : Word} (h : ShowsWord line w) :
    shownWord? line = some w := by
  obtain ⟨front, digits, rfl, hlength, -, hread⟩ := h
  have hdigits :
      ((front ++ digits ++ ")").toList.reverse.drop 1).take 4 = digits.toList.reverse := by
    have hdrop : (front ++ digits ++ ")").toList.reverse.drop 1 =
        digits.toList.reverse ++ front.toList.reverse := by simp
    rw [hdrop, List.take_left' (by rw [List.length_reverse, String.length_toList, hlength])]
  have hword : Word.ofInt w.toNat = w := by simp [Word.ofInt]
  rw [shownWord?, hdigits, List.reverse_reverse, String.ofList_toList, hread]
  exact congrArg some hword

theorem shownWord?_empty : shownWord? "" = none := by decide

/-- **The words of a listing are read off its text.** -/
theorem shownBytes_text (data : List Byte) (withAddress : Bool) (start : Int)
    (count : Option Int) :
    shownBytes (text data withAddress start count) =
      bytes ((disassemble data start count).map (·.word)) := by
  have hshown : (lines data withAddress start count).filterMap shownWord? =
      (disassemble data start count).map (·.word) := by
    unfold lines
    rw [List.filterMap_map, ← List.filterMap_eq_map]
    apply List.filterMap_congr
    intro line _
    rw [Function.comp_apply, Function.comp_apply]
    exact shownWord?_of_showsWord (showsWord_format line withAddress)
  unfold shownBytes
  rw [splitLines_text, ← hshown]
  split
  · next hnone => rw [hnone, List.filterMap_cons_none shownWord?_empty, List.filterMap_nil]
  · rfl

/-- What the listing of a block of bytes is, as a walk over its words. -/
structure Walked (data : List Byte) (start : Int) : Prop where
  length : (disassemble data start none).length = data.length / 2
  address : ∀ (k : Nat) (line : Line), (disassemble data start none)[k]? = some line →
    line.address = start + 2 * (k : Int)
  /-- The words are the bytes, without an odd one at the end. -/
  bytes : bytes ((disassemble data start none).map (·.word)) = data.take (2 * (data.length / 2))
  append : Even data.length → ∀ rest : List Byte, disassemble (data ++ rest) start none =
    disassemble data start none ++ disassemble rest (start + data.length) none
  count : ∀ count : Int, disassemble data start (some count) =
    (disassemble data start none).take (max count 0).toNat

/-- What the printed text of a listing gives back. -/
structure Legible (data : List Byte) (withAddress : Bool) (start : Int) (count : Option Int) :
    Prop where
  split : lines data withAddress start count ≠ [] →
    splitLines (text data withAddress start count) = lines data withAddress start count
  empty : lines data withAddress start count = [] → text data withAddress start count = ""
  word : ∀ line ∈ disassemble data start count, ShowsWord (line.format withAddress) line.word
  bytes : shownBytes (text data withAddress start count) =
    bytes ((disassemble data start count).map (·.word))

/-- **A listing loses nothing but an odd byte at the end, and neither does its text.** -/
theorem lossless (data : List Byte) (start : Int) :
    Walked data start ∧ ∀ withAddress count, Legible data withAddress start count := by
  refine ⟨?_, fun withAddress count => ?_⟩
  · exact {
      length := length_disassemble data start
      address := fun _ _ h => address_of_getElem? h
      bytes := bytes_disassemble data start
      append := fun h rest => disassemble_append h rest start
      count := disassemble_some data start }
  · exact {
      split := fun h => by rw [splitLines_text, if_neg h]
      empty := fun h => by rw [text, h, String.intercalate_nil]
      word := fun line _ => showsWord_format line withAddress
      bytes := shownBytes_text data withAddress start count }

end Listing
end ChipEight
