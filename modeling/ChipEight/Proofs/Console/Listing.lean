/-
The listing shows what will be executed.

A listing of memory reads the bytes from an address on, as many as are asked for and as there are,
and pairs them up.  So its line `k` shows the word that stands `2 * k` positions further, which is
the word that a cycle would fetch there.  It is refused only where there are bytes to read from a
negative address.

At the program counter the one line of a listing tells in advance what the next cycle meets:
an instruction that is executed, an instruction that is refused, or a word that encodes none.
Right after a program was loaded, the listing of memory begins like the listing of the program.
-/
import ChipEight.Console.Inspect
import ChipEight.Proofs.Console.Loading
import ChipEight.Proofs.Listing
import ChipEight.Proofs.Memory.History

namespace ChipEight

open Listing (words number printed)

namespace Memory

/-- The words of a stretch of memory are the words that stand there. -/
theorem words_slice (m : Memory) (a count : Nat) :
    words (m.slice a count) = (List.range (count / 2)).map fun k => m.wordAt (a + 2 * k) := by
  apply List.ext_getElem?
  intro k
  by_cases hk : k < count / 2
  · have hhigh := m.getElem?_slice (a := a) (show 2 * k < count by omega)
    have hlow := m.getElem?_slice (a := a) (show 2 * k + 1 < count by omega)
    rw [Listing.getElem?_words hhigh hlow]
    simp [hk, wordAt, Nat.add_assoc]
  · have hlen : (words (m.slice a count)).length = count / 2 := by
      rw [Listing.length_words, length_slice]
    rw [List.getElem?_eq_none (by omega), List.getElem?_eq_none]
    rw [List.length_map, List.length_range]
    omega

end Memory

namespace Console

variable {c : Console}

/-! ### Listings of memory -/

/-- How many lines a listing has that is asked for some count of them. -/
def lineCount (address count : Int) : Nat := (min count ((4096 - address) / 2)).toNat

/-- The word that line `k` of a listing shows. -/
def wordFrom (c : Console) (address : Int) (k : Nat) : Word :=
  c.machine.memory.wordAt (address.toNat + 2 * k)

theorem disassembleAt_of_negative {address count : Int} (ha : address < 0) (hcount : 0 < count) :
    c.disassembleAt address count = .error ⟨address⟩ := by
  have hsize : (Memory.size : Int) = 4096 := rfl
  unfold disassembleAt listAt
  show Except.map _ (Except.map _ (c.machine.memory.readBlock _ _)) = _
  rw [Memory.readBlock_of_refuses _ (.first (by omega) (.inl ha))]
  rfl

theorem disassembleAt_of_fits {address count : Int} (h : 0 ≤ address ∨ count ≤ 0) :
    c.disassembleAt address count = .ok ((List.range (lineCount address count)).map fun k : Nat =>
      printed (address + 2 * k) (c.wordFrom address k).pseudocode (c.wordFrom address k)) := by
  have hsize : (Memory.size : Int) = 4096 := rfl
  have hfits : Memory.Fits address (max 0 (min (count * 2) (Memory.size - address))) := by
    unfold Memory.Fits
    omega
  have hhalf : (max 0 (min (count * 2) (Memory.size - address))).toNat / 2 =
      lineCount address count := by
    unfold lineCount
    omega
  unfold disassembleAt listAt
  show Except.map _ (Except.map _ (c.machine.memory.readBlock _ _)) = _
  rw [Memory.readBlock_of_fits _ hfits]
  show Except.ok ((number address (words _)).map _) = _
  rw [Memory.words_slice, hhalf, Listing.map_format_number]
  rfl

/-- What a listing from an address on shows. -/
structure Shows (c : Console) (address count : Int) (texts : List String) : Prop where
  length : 0 ≤ address → address ≤ 4095 →
    (texts.length : Int) = min (max count 0) ((4096 - address) / 2)
  outside : address < 0 ∨ 4095 < address → texts = []
  line : ∀ k, (h : k < texts.length) → ∃ w,
    c.machine.memory.readWord (address + 2 * k) = .ok w ∧
      texts[k] = printed (address + 2 * k) w.pseudocode w ∧
        Listing.Spelled texts[k] (address + 2 * k) w.pseudocode w

theorem disassembleAt_eq_error_iff {address count : Int} {e : OutOfRange} :
    c.disassembleAt address count = .error e ↔ address < 0 ∧ 0 < count ∧ e = ⟨address⟩ := by
  by_cases h : 0 ≤ address ∨ count ≤ 0
  · rw [disassembleAt_of_fits h]
    refine ⟨(fun he => nomatch he), ?_⟩
    rintro ⟨ha, hcount, -⟩
    omega
  · have ha : address < 0 := by omega
    have hcount : 0 < count := by omega
    rw [disassembleAt_of_negative ha hcount]
    exact ⟨fun he => ⟨ha, hcount, (Except.error.inj he).symm⟩, fun he => by rw [he.2.2]⟩

theorem shows_of_disassembleAt {address count : Int} {texts : List String}
    (h : c.disassembleAt address count = .ok texts) : c.Shows address count texts := by
  have hfits : 0 ≤ address ∨ count ≤ 0 := by
    by_contra hn
    rw [disassembleAt_of_negative (by omega) (by omega)] at h
    cases h
  rw [disassembleAt_of_fits hfits] at h
  obtain rfl := Except.ok.inj h
  refine ⟨?_, ?_, ?_⟩
  · intro hlow hhigh
    rw [List.length_map, List.length_range]
    unfold lineCount
    omega
  · intro hout
    have hnone : lineCount address count = 0 := by
      unfold lineCount
      omega
    rw [hnone]
    rfl
  · intro k hk
    have hcount : k < lineCount address count := by simpa using hk
    unfold lineCount at hcount
    have hword : Memory.Fits (address + 2 * k) 2 := by
      unfold Memory.Fits
      omega
    have hnat : (address + 2 * k).toNat = address.toNat + 2 * k := by omega
    have htext : (((List.range (lineCount address count)).map fun k : Nat =>
        printed (address + 2 * k) (c.wordFrom address k).pseudocode (c.wordFrom address k))[k]) =
          printed (address + 2 * k) (c.wordFrom address k).pseudocode (c.wordFrom address k) := by
      simp
    refine ⟨c.wordFrom address k, ?_, htext, ?_⟩
    · rw [Memory.readWord_of_fits _ hword, hnat]
      rfl
    · rw [htext]
      exact Listing.spelled_printed (by omega) (by omega) _ _

/-! ### The line at the program counter -/

/-- The line of a word tells what the next cycle meets. -/
structure Foretells (c : Console) (w : Word) (line : String) : Prop where
  listed : c.disassembleAt c.machine.pc.toNat 1 = .ok [line]
  described : line = printed c.machine.pc.toNat w.pseudocode w
  spelled : Listing.Spelled line c.machine.pc.toNat w.pseudocode w
  peeked : c.peek = .ok w
  /-- A cycle that succeeds reports the word, and has executed what the line describes. -/
  executed : ∀ cycle, c.step.result = .ok cycle →
    cycle.address = c.machine.pc ∧ cycle.word = w ∧
      (cycle.isImplemented = true → ∃ ins effect,
        Machine.Executed c.rules c.source (c.machine.latch w) ins effect ∧
          c.step.console.machine = effect.machine ∧
          line = printed c.machine.pc.toNat ins.pseudocode w)
  /-- A cycle that faults blames the word, and has refused what the line describes. -/
  refused : ∀ fault, c.step.result = .error fault →
    fault.address = some (c.machine.pc.toNat : Int) ∧ fault.word = some (w.toNat : Int) ∧
      ∃ ins, Machine.Refused c.rules c.machine ins fault.cause ∧
        line = printed c.machine.pc.toNat ins.pseudocode w
  unknown : line = printed c.machine.pc.toNat "unknown instruction" w ↔
    ∃ cycle, c.step.result = .ok cycle ∧ cycle.isImplemented = false

theorem disassembleAt_pc (hpc : c.machine.pc.toNat ≠ 0xFFF) :
    c.disassembleAt c.machine.pc.toNat 1 =
      .ok [printed c.machine.pc.toNat c.machine.nextWord.pseudocode c.machine.nextWord] := by
  have hlt := c.machine.pc.isLt
  have hone : lineCount c.machine.pc.toNat 1 = 1 := by
    unfold lineCount
    omega
  have hword : c.wordFrom c.machine.pc.toNat 0 = c.machine.nextWord := rfl
  rw [disassembleAt_of_fits (.inl (by omega)), hone]
  simp [hword]

/-- A cycle that succeeds at the word of an instruction leaves what that instruction leaves. -/
theorem executed_of_implemented {cycle : Cycle} (h : c.step.result = .ok cycle)
    (hknown : cycle.isImplemented = true) :
    ∃ ins effect, Instruction.decode c.machine.nextWord = some ins ∧
      Machine.Executed c.rules c.source (c.machine.latch c.machine.nextWord) ins effect ∧
        c.step.console.machine = effect.machine := by
  obtain ⟨-, -, hword⟩ := cycle_of_step h
  rw [isImplemented_of_step h, hword, Word.isKnown] at hknown
  obtain ⟨ins, hd⟩ := Option.isSome_iff_exists.mp hknown
  have hencode : c.machine.nextWord = ins.encode := (Instruction.encode_of_decode hd).symm
  rw [step_result] at h
  obtain ⟨effect, he, hstep⟩ := Machine.executed_of_step ins hencode h
  refine ⟨ins, effect, hd, he, ?_⟩
  rw [step_of_ok hstep]

theorem refused_of_fault (hpc : c.machine.pc.toNat ≠ 0xFFF) {fault : Fault}
    (h : c.step.result = .error fault) :
    fault.address = some (c.machine.pc.toNat : Int) ∧
      fault.word = some (c.machine.nextWord.toNat : Int) ∧
        ∃ ins, Instruction.decode c.machine.nextWord = some ins ∧
          Machine.Refused c.rules c.machine ins fault.cause := by
  rw [step_result] at h
  have hout := Machine.outcomes_step c.rules c.source c.machine
  generalize c.machine.step c.rules c.source = o at h hout
  cases hout with
  | pastEnd hend => exact absurd hend hpc
  | unknown hne hd => cases h
  | executed hne hd he => cases h
  | refused hne hd hr =>
      obtain rfl := Except.error.inj h
      exact ⟨rfl, rfl, _, hd, hr⟩

theorem unimplemented_iff (hpc : c.machine.pc.toNat ≠ 0xFFF) :
    (∃ cycle, c.step.result = .ok cycle ∧ cycle.isImplemented = false) ↔
      Instruction.decode c.machine.nextWord = none := by
  constructor
  · rintro ⟨cycle, h, hun⟩
    obtain ⟨-, -, hword⟩ := cycle_of_step h
    rwa [isImplemented_of_step h, hword, Word.isKnown_eq_false_iff] at hun
  · intro hd
    refine ⟨⟨c.machine.pc, c.machine.nextWord, false, false, false⟩, ?_, rfl⟩
    rw [step_result, Machine.step_unknown hpc hd]

theorem foretells (hpc : c.machine.pc.toNat ≠ 0xFFF) :
    c.Foretells c.machine.nextWord
      (printed c.machine.pc.toNat c.machine.nextWord.pseudocode c.machine.nextWord) where
  listed := disassembleAt_pc hpc
  described := rfl
  spelled := Listing.spelled_printed (by omega) (by have := c.machine.pc.isLt; omega) _ _
  peeked := peek_eq_ok_iff.mpr ⟨hpc, rfl⟩
  executed := by
    intro cycle h
    obtain ⟨-, haddress, hword⟩ := cycle_of_step h
    refine ⟨haddress, hword, ?_⟩
    intro hknown
    obtain ⟨ins, effect, hd, he, hmachine⟩ := executed_of_implemented h hknown
    exact ⟨ins, effect, he, hmachine, by rw [Word.pseudocode_of_decode hd]⟩
  refused := by
    intro fault h
    obtain ⟨haddress, hword, ins, hd, hr⟩ := refused_of_fault hpc h
    exact ⟨haddress, hword, ins, hr, by rw [Word.pseudocode_of_decode hd]⟩
  unknown := by
    rw [unimplemented_iff hpc, Listing.printed_inj]
    exact Word.pseudocode_eq_unknown_iff _

/-! ### Listings of a program that was just loaded -/

theorem slice_loaded (c : Console) {rom : List Byte} (h : rom.length ≤ Memory.programLimit) :
    (c.loaded rom).machine.memory.slice 0x200 rom.length = rom := by
  apply List.ext_getElem?
  intro k
  by_cases hk : k < rom.length
  · rw [Memory.getElem?_slice _ hk]
    exact (justLoaded_loaded c h).program k hk
  · rw [List.getElem?_eq_none, List.getElem?_eq_none (by omega)]
    rw [Memory.length_slice]
    omega

theorem words_loaded (c : Console) {rom : List Byte} (h : rom.length ≤ Memory.programLimit) :
    words rom = (List.range (rom.length / 2)).map ((c.loaded rom).wordFrom 0x200) := by
  calc words rom
      = words ((c.loaded rom).machine.memory.slice 0x200 rom.length) := by rw [slice_loaded c h]
    _ = (List.range (rom.length / 2)).map ((c.loaded rom).wordFrom 0x200) :=
        Memory.words_slice _ _ _

/-- The listing of memory begins like the listing of the program. -/
theorem take_disassembleAt_loaded (c : Console) {rom : List Byte}
    (h : rom.length ≤ Memory.programLimit) (count : Int) :
    ∃ texts, (c.loaded rom).disassembleAt 0x200 count = .ok texts ∧
      texts.take (min count (rom.length / 2 : Nat)).toNat =
        Listing.lines rom true 0x200 (some count) := by
  have hlimit : rom.length ≤ 3584 := h
  have hmin : min (min count (rom.length / 2 : Nat)).toNat (lineCount 0x200 count) =
      min count.toNat (rom.length / 2) := by
    unfold lineCount
    omega
  refine ⟨_, disassembleAt_of_fits (.inl (by omega)), ?_⟩
  show _ = (number 0x200 ((words rom).take count.toNat)).map (·.format true)
  rw [words_loaded c h, ← List.map_take, ← List.map_take, List.take_range, List.take_range, hmin,
    Listing.map_format_number]

/-- **The listing shows what will be executed.**  It is refused only at a negative address, it has
as many lines as there are whole words, and each line shows the word that memory holds there.  At
the program counter its line describes the instruction that the next cycle executes or refuses, or
says that there is none.  Right after loading, it agrees with the listing of the program. -/
theorem listing_foretells (c : Console) :
    (∀ address count e, c.disassembleAt address count = .error e ↔
      address < 0 ∧ 0 < count ∧ e = ⟨address⟩) ∧
    (∀ address count texts, c.disassembleAt address count = .ok texts →
      c.Shows address count texts) ∧
    (c.machine.pc.toNat ≤ 0xFFE → ∃ w line, c.Foretells w line) ∧
    ∀ rom : List Byte, rom.length ≤ 3584 → ∀ count : Int,
      (c.load rom).result = .ok () ∧
        ∃ texts, (c.load rom).console.disassembleAt 0x200 count = .ok texts ∧
          texts.take (min count (rom.length / 2 : Nat)).toNat =
            Listing.lines rom true 0x200 (some count) := by
  refine ⟨fun _ _ _ => disassembleAt_eq_error_iff, fun _ _ _ => shows_of_disassembleAt, ?_, ?_⟩
  · intro hpc
    exact ⟨_, _, foretells (by omega)⟩
  · intro rom h count
    rw [load_of_le h]
    exact ⟨rfl, take_disassembleAt_loaded c h count⟩

end Console
end ChipEight
