/-
What the columns of a listing tell.

The assembly column of a listing tells the program, because an assembly line tells its word: an
assembler that looks up each line among the lines of all words undoes the listing.  The pseudocode
column tells less.  All words without an instruction are described alike, so it tells where they are
and not which they are, but it tells every other word.
-/
import ChipEight.Proofs.Instruction.Assembly
import ChipEight.Proofs.Listing.Walk

namespace ChipEight.Listing

/-! ### An assembler -/

/-- All words. -/
def allWords : List Word := (List.finRange (2 ^ 16)).map BitVec.ofFin

/-- The word with a given assembly line. -/
def assembled? (line : String) : Option Word := allWords.find? fun w => w.assembly = line

/-- The bytes of the words with the given assembly lines. -/
def assemble (column : List String) : List Byte := bytes (column.filterMap assembled?)

/-- The assembly of the words of a block of bytes. -/
def assemblyColumn (data : List Byte) (start : Int) : List String :=
  (disassemble data start none).map (·.assembly)

/-- The pseudocode of the words of a block of bytes. -/
def pseudocodeColumn (data : List Byte) (start : Int) : List String :=
  (disassemble data start none).map (·.text)

theorem mem_allWords (w : Word) : w ∈ allWords :=
  List.mem_map.mpr ⟨w.toFin, List.mem_finRange _, rfl⟩

theorem assembled?_assembly (w : Word) : assembled? w.assembly = some w := by
  unfold assembled?
  cases h : allWords.find? fun v => v.assembly = w.assembly with
  | none => simpa using List.find?_eq_none.mp h w (mem_allWords w)
  | some v =>
      have hv : v.assembly = w.assembly := by simpa using List.find?_some h
      rw [Word.assembly_injective hv]

theorem map_word_disassemble (data : List Byte) (start : Int) :
    (disassemble data start none).map (·.word) = words data :=
  map_word_number start (words data)

theorem assemblyColumn_eq (data : List Byte) (start : Int) :
    assemblyColumn data start = (words data).map Word.assembly := by
  rw [← map_word_disassemble data start, List.map_map]
  rfl

theorem bytes_words_of_even {data : List Byte} (h : Even data.length) :
    bytes (words data) = data := by
  rw [bytes_words, Nat.two_mul_div_two_of_even h, List.take_length]

/-- **The assembler undoes the listing.** -/
theorem assemble_assemblyColumn {data : List Byte} (h : Even data.length) (start : Int) :
    assemble (assemblyColumn data start) = data := by
  have hlookup : ∀ ws : List Word, (ws.map Word.assembly).filterMap assembled? = ws := by
    intro ws
    induction ws with
    | nil => rfl
    | cons w rest ih => rw [List.map_cons, List.filterMap_cons_some (assembled?_assembly w), ih]
  rw [assemble, assemblyColumn_eq, hlookup, bytes_words_of_even h]

/-! ### The two columns -/

/-- Two lines that a reader of pseudocode takes for the same: they show the same word, or each of
them shows a word without an instruction. -/
structure Alike (line line' : Line) : Prop where
  known : line.word.operation ≠ .unknown ∨ line'.word.operation ≠ .unknown →
    line.word = line'.word
  unknown : line.text = "unknown instruction" ∨ line'.text = "unknown instruction" →
    line.word.operation = .unknown ∧ line'.word.operation = .unknown

theorem alike_of_text_eq {line line' : Line} (h : line.text = line'.text) : Alike line line' := by
  have hop : line.word.operation = line'.word.operation := Word.operation_eq_of_pseudocode_eq h
  constructor
  case known =>
    rw [← hop, or_self]
    exact Word.eq_of_pseudocode_eq h
  case unknown =>
    rw [← h, ← hop, or_self, and_self, Word.operation_eq_unknown_iff]
    exact (Word.pseudocode_eq_unknown_iff line.word).mp

/-- **The assembly column tells the program, and the pseudocode column its known words.** -/
theorem columns_tell (data data' : List Byte) (start start' : Int) (h : Even data.length)
    (h' : Even data'.length) :
    assemble (assemblyColumn data start) = data ∧
      (assemblyColumn data start = assemblyColumn data' start' → data = data') ∧
      (pseudocodeColumn data start = pseudocodeColumn data' start' →
        data.length = data'.length ∧ ∀ (k : Nat) (line line' : Line),
          (disassemble data start none)[k]? = some line →
            (disassemble data' start' none)[k]? = some line' → Alike line line') := by
  refine ⟨assemble_assemblyColumn h start, fun hcolumns => ?_, fun hcolumns => ⟨?_, ?_⟩⟩
  · rw [← assemble_assemblyColumn h start, hcolumns, assemble_assemblyColumn h' start']
  · have hlength := congrArg List.length hcolumns
    simp only [pseudocodeColumn, List.length_map, length_disassemble] at hlength
    obtain ⟨n, hn⟩ := h
    obtain ⟨n', hn'⟩ := h'
    omega
  · intro k line line' hline hline'
    have htext : (pseudocodeColumn data start)[k]? = some line.text := by
      rw [pseudocodeColumn, List.getElem?_map, hline]
      rfl
    have htext' : (pseudocodeColumn data' start')[k]? = some line'.text := by
      rw [pseudocodeColumn, List.getElem?_map, hline']
      rfl
    rw [hcolumns, htext'] at htext
    exact alike_of_text_eq (Option.some.inj htext).symm

theorem columns_tell_unknownWords :
    let data : List Byte := [0xF1, 0x29, 0x00, 0x00]
    let data' : List Byte := [0xF1, 0x29, 0xFF, 0xFF]
    Even data.length ∧ Even data'.length ∧
      assemble (assemblyColumn data 0x200) = data ∧ data ≠ data' ∧
        assemblyColumn data 0x200 ≠ assemblyColumn data' 0x200 ∧
          pseudocodeColumn data 0x200 = pseudocodeColumn data' 0x200 ∧
            ∀ (k : Nat) (line line' : Line),
              (disassemble data 0x200 none)[k]? = some line →
                (disassemble data' 0x200 none)[k]? = some line' →
                  Alike line line' := by
  intro data data'
  have h : Even data.length := by decide
  have h' : Even data'.length := by decide
  have hne : data ≠ data' := by decide
  have hcolumns : pseudocodeColumn data 0x200 = pseudocodeColumn data' 0x200 := by
    decide +kernel
  obtain ⟨hassemble, hassembly, hpseudocode⟩ := columns_tell data data' 0x200 0x200 h h'
  exact ⟨h, h', hassemble, hne, mt hassembly hne, hcolumns, (hpseudocode hcolumns).2⟩

end ChipEight.Listing
