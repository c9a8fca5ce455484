/-
Accesses to memory at an address.

A program names memory through addresses of twelve bits, so the first position of an access
is never refused, and a block is refused exactly if it ends beyond the last position.  The
lemmas here say so once for each kind of access; nothing after this file looks at
`Memory.check` again.

The other half of the file is about size.  Memory and the registers cannot change their
length, but the rows they stand for could: putting a block in the place of a part of a row
makes the row longer or shorter whenever the part and the block differ in length.  `splice`
is that operation on plain lists, and a store is a splice that never has to be cut off.

What memory holds after switching on stands at the end.
-/
import ChipEight.Machine.Basic

namespace ChipEight

/-- A list with the `count` entries from `first` on replaced by a block of any length. -/
def splice {α : Type} (l : List α) (first count : Nat) (block : List α) : List α :=
  l.take first ++ block ++ l.drop (first + count)

theorem splice_nil {α : Type} (l : List α) (first : Nat) : splice l first 0 [] = l := by
  rw [splice, Nat.add_zero, List.append_nil, List.take_append_drop]

/-- Replacing one entry and then the ones after it replaces them all. -/
theorem splice_set {α : Type} (l : List α) {first : Nat} (b : α) (rest : List α)
    (h : first < l.length) :
    splice (l.set first b) (first + 1) rest.length rest
      = splice l first (rest.length + 1) (b :: rest) := by
  have hlen : first < (l.set first b).length := by rw [List.length_set]; exact h
  have htake : (l.set first b).take (first + 1) = l.take first ++ [b] := by
    rw [List.take_succ_eq_append_getElem hlen, List.getElem_set_self,
      List.take_set_of_le (Nat.le_refl first)]
  have hdrop : (l.set first b).drop (first + 1 + rest.length)
      = l.drop (first + (rest.length + 1)) := by
    rw [List.drop_set_of_lt (by omega)]
    congr 1
    omega
  rw [splice, splice, htake, hdrop]
  simp

namespace Memory

/-- The word at a position, high byte first. -/
def wordAt (m : Memory) (a : Nat) : Word := Word.ofBytes (m.byteAt a) (m.byteAt (a + 1))

theorem ext_byteAt {m n : Memory} (h : ∀ a < size, m.byteAt a = n.byteAt a) : m = n := by
  obtain ⟨bytes⟩ := m
  obtain ⟨bytes'⟩ := n
  congr 1
  refine Vector.ext fun a ha => ?_
  have hbyte := h a ha
  simpa [byteAt, ha] using hbyte

/-! ### What is refused -/

/-- From an address on, only the last position of a block can be outside. -/
theorem check_address (a : Address) (count : Int) :
    check a.toNat count =
      if (size : Int) < a.toNat + count then .error ⟨a.toNat + count - 1⟩ else .ok () := by
  have ha : a.toNat < 4096 := a.isLt
  have hfirst : ¬((a.toNat : Int) < 0 ∨ (size : Int) ≤ a.toNat) := by
    simp only [size]
    omega
  rw [check, if_neg hfirst]
  by_cases h : (size : Int) < a.toNat + count
  · rw [if_pos h, if_pos (by omega)]
  · rw [if_neg h, if_neg (by omega)]

theorem readWord_address (m : Memory) (a : Address) :
    m.readWord a.toNat =
      if a.toNat = 0xFFF then .error ⟨0x1000⟩ else .ok (m.wordAt a.toNat) := by
  have ha : a.toNat < 4096 := a.isLt
  rw [readWord, check_address]
  by_cases h : a.toNat = 0xFFF
  · rw [if_pos h, if_pos (by simp only [size]; omega), h]
    rfl
  · rw [if_neg h, if_neg (by simp only [size]; omega)]
    rfl

theorem readBlock_address (m : Memory) (a : Address) (count : Nat) :
    m.readBlock a.toNat count =
      if 1 ≤ count ∧ size < a.toNat + count then .error ⟨(a.toNat + count - 1 : Nat)⟩
      else .ok (m.slice a.toNat count) := by
  rw [readBlock]
  by_cases h0 : count = 0
  · subst h0
    rfl
  · rw [if_neg (by omega), check_address]
    by_cases h : size < a.toNat + count
    · rw [if_pos (by omega), if_pos ⟨by omega, h⟩, show ((a.toNat + count - 1 : Nat) : Int)
        = a.toNat + count - 1 by omega]
      rfl
    · rw [if_neg (by omega), if_neg (fun hc => h hc.2)]
      rfl

theorem writeBlock_address (m : Memory) (a : Address) (values : List Byte) :
    writeBlock a.toNat values m =
      if 1 ≤ values.length ∧ size < a.toNat + values.length then
        .error ⟨(a.toNat + values.length - 1 : Nat)⟩ m
      else .ok () (m.store a.toNat values) := by
  rw [writeBlock]
  cases values with
  | nil => rfl
  | cons b rest =>
      rw [if_neg (by simp), check_address]
      have hpos : 1 ≤ (b :: rest).length := by simp
      by_cases h : size < a.toNat + (b :: rest).length
      · rw [if_pos (by omega), if_pos ⟨hpos, h⟩,
          show ((a.toNat + (b :: rest).length - 1 : Nat) : Int)
            = a.toNat + ((b :: rest).length : Nat) - 1 by omega]
        rfl
      · rw [if_neg (by omega), if_neg (fun hc => h hc.2)]
        rfl

@[simp] theorem length_slice (m : Memory) (a count : Nat) : (m.slice a count).length = count := by
  simp [slice]

theorem getElem?_slice (m : Memory) {a count k : Nat} (hk : k < count) :
    (m.slice a count)[k]? = some (m.byteAt (a + k)) := by
  simp [slice, hk]

/-- A slice that fits is a part of the row of bytes. -/
theorem slice_eq_take_drop (m : Memory) {a count : Nat} (h : a + count ≤ size) :
    m.slice a count = (m.bytes.toList.drop a).take count := by
  simp only [size] at h
  refine List.ext_getElem ?_ fun k hk hk' => ?_
  · rw [length_slice, List.length_take, List.length_drop, Vector.length_toList]
    omega
  · rw [length_slice] at hk
    have hin : a + k < 4096 := by omega
    simp [slice, byteAt, hin]

/-! ### What is stored -/

/-- A store that fits replaces as many bytes as it brings. -/
theorem toList_store (m : Memory) (a : Nat) (bytes : List Byte) (h : a + bytes.length ≤ size) :
    (m.store a bytes).bytes.toList = splice m.bytes.toList a bytes.length bytes := by
  induction bytes generalizing m a with
  | nil => exact (splice_nil _ a).symm
  | cons b rest ih =>
      rw [List.length_cons] at h
      have ha : a < m.bytes.toList.length := by
        rw [Vector.length_toList]
        simp only [size] at h
        omega
      rw [store, ih (m.setByte a b) (a + 1) (by omega)]
      show splice (m.bytes.setIfInBounds a b).toList (a + 1) rest.length rest = _
      rw [Vector.toList_setIfInBounds]
      exact splice_set m.bytes.toList b rest ha

/-- A store leaves every byte outside its block as it was. -/
theorem byteAt_store_of_outside (m : Memory) {a : Nat} {bytes : List Byte} {k : Nat}
    (h : k < a ∨ a + bytes.length ≤ k) : (m.store a bytes).byteAt k = m.byteAt k := by
  rw [byteAt_store]
  split
  · rename_i hin
    have hlen : bytes.length ≤ k - a := by omega
    rw [List.getElem?_eq_none hlen, Option.getD_none]
  · rfl

/-- The first two bytes of a block are the word at its start. -/
theorem wordAt_store (m : Memory) {a : Nat} (high low : Byte) (rest : List Byte)
    (h : a + 1 < size) :
    (m.store a (high :: low :: rest)).wordAt a = Word.ofBytes high low := by
  have ha : a < size := by omega
  rw [wordAt, byteAt_store, byteAt_store, if_pos ⟨Nat.le_refl a, ha⟩, if_pos ⟨Nat.le_succ a, h⟩,
    Nat.sub_self, Nat.add_sub_cancel_left]
  rfl

/-- **A block that is accepted is stored whole.**  The place that it is put into has as many
bytes as the block, so memory would keep its size even if it could be resized. -/
theorem toList_writeBlock {m m' : Memory} {address : Int} {values : List Byte}
    (h : writeBlock address values m = .ok () m') :
    m'.bytes.toList = splice m.bytes.toList address.toNat values.length values := by
  rw [writeBlock] at h
  cases values with
  | nil =>
      obtain rfl : m = m' := (EStateM.Result.ok.inj h).2
      exact (splice_nil _ _).symm
  | cons b rest =>
      rw [if_neg (by simp), check] at h
      split at h
      · cases h
      · rename_i hfirst
        split at h
        · cases h
        · rename_i hlast
          obtain rfl : m.store address.toNat (b :: rest) = m' := (EStateM.Result.ok.inj h).2
          exact toList_store m _ _ (by omega)

/-! ### After switching on -/

/-- Where nothing was stored, memory is zero. -/
theorem byteAt_blank (a : Nat) : (⟨Vector.replicate 4096 0⟩ : Memory).byteAt a = 0 := by
  rw [byteAt, Vector.getElem?_replicate]
  split <;> rfl

/-- Clearing brings memory back to where it was after switching on. -/
theorem clear_eq_powerOn (m : Memory) : m.clear = powerOn := rfl

/-- After switching on there is the font, and zeros after it. -/
theorem byteAt_powerOn (a : Nat) : powerOn.byteAt a = Font.glyphs[a]?.getD 0 := by
  rw [powerOn, byteAt_store, byteAt_blank]
  by_cases ha : a < size
  · rw [if_pos ⟨Nat.zero_le a, ha⟩, Nat.sub_zero]
  · have hlen : Font.glyphs.length ≤ a :=
      Nat.le_trans (by decide : Font.glyphs.length ≤ size) (Nat.not_lt.mp ha)
    rw [if_neg (fun h => ha h.2), List.getElem?_eq_none hlen, Option.getD_none]

end Memory

namespace Registers

theorem read_setIfInBounds (v : Registers) (first : Nat) (b : Byte) (r : Register) :
    Registers.read (v.setIfInBounds first b) r = if first = r.toNat then b else v.read r := by
  simp only [read, Vector.getElem_setIfInBounds]

theorem read_fill (v : Registers) (first : Nat) (bytes : List Byte) (r : Register) :
    (v.fill first bytes).read r =
      if first ≤ r.toNat then (bytes[r.toNat - first]?).getD (v.read r) else v.read r := by
  induction bytes generalizing v first with
  | nil => simp [fill]
  | cons b rest ih =>
      rw [fill, ih, read_setIfInBounds]
      by_cases h1 : first = r.toNat
      · have h2 : ¬first + 1 ≤ r.toNat := by omega
        rw [if_neg h2, if_pos h1, if_pos (Nat.le_of_eq h1), h1, Nat.sub_self]
        rfl
      · by_cases h2 : first + 1 ≤ r.toNat
        · have h3 : first ≤ r.toNat := by omega
          have h4 : r.toNat - first = r.toNat - (first + 1) + 1 := by omega
          rw [if_pos h2, if_neg h1, if_pos h3, h4, List.getElem?_cons_succ]
        · have h3 : ¬first ≤ r.toNat := by omega
          rw [if_neg h2, if_neg h1, if_neg h3]

/-- The registers up to `Vx` in order. -/
theorem getElem?_upTo (v : Registers) {x r : Register} (h : r.toNat ≤ x.toNat) :
    (v.upTo x)[r.toNat]? = some (v.read r) := by
  have hr : r.toNat < 16 := r.isLt
  rw [upTo, List.getElem?_take_of_lt (by omega), List.getElem?_eq_getElem (by simpa using hr)]
  rfl

/-- Filling the first registers replaces as many of them as there are bytes. -/
theorem toList_fill (v : Registers) (first : Nat) (bytes : List Byte)
    (h : first + bytes.length ≤ 16) :
    (v.fill first bytes).toList = splice v.toList first bytes.length bytes := by
  induction bytes generalizing v first with
  | nil => exact (splice_nil _ first).symm
  | cons b rest ih =>
      rw [List.length_cons] at h
      rw [fill, ih (v.setIfInBounds first b) (first + 1) (by omega), Vector.toList_setIfInBounds]
      exact splice_set v.toList b rest (by rw [Vector.length_toList]; omega)

end Registers
end ChipEight
